/-
The bodies of the requests that a client sends on its own behalf.
-/

import CqlDriver.Wire.Body

namespace CqlDriver.Wire

def languageVersion : String × String := ("CQL_VERSION", "3.0.0")

def startupBody : List UInt8 := Writer.stringMap [languageVersion]

def registerBody (kinds : List String) : List UInt8 := Writer.stringList kinds

def authResponseBody (token : Option (List UInt8)) : List UInt8 := Writer.bytes token

def queryBody (query : String) (consistency : UInt16) : List UInt8 :=
  Writer.longString query ++ Writer.short consistency ++ [0]

end CqlDriver.Wire
