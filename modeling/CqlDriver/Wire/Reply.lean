/-
The bodies of the answers that set up a connection.
-/

import CqlDriver.Wire.Body

namespace CqlDriver.Wire

def parseAuthenticate (body : List UInt8) : Except BodyFault String :=
  Reader.string.onBody body

def parseAuthToken (body : List UInt8) : Except BodyFault (Option (List UInt8)) :=
  Reader.bytes.onBody body

def parseSupported (body : List UInt8) : Except BodyFault (List (String × List String)) :=
  (Reader.stringMultimap.onBody body).map byKey

end CqlDriver.Wire
