/-
Answering a server that demands credentials.
-/

import CqlDriver.Error.Driver
import CqlDriver.Text.Quoted

namespace CqlDriver

structure Authenticator where
  initial : SocketAddress → String → Except DriverError (List UInt8)
  /-- The answer to the last of the challenges so far. -/
  answer : SocketAddress → List (Option (List UInt8)) → Except DriverError (List UInt8)

namespace Authenticator

def failure (text : String) : DriverError := .connection (.authentication text)

/-- A user's name and password, each behind a zero byte. -/
def plainToken (username password : String) : List UInt8 :=
  0 :: Text.Utf8.encode username ++ 0 :: Text.Utf8.encode password

def plainText (username password : String) : Authenticator :=
  { initial := fun _ _ => .ok (plainToken username password)
    answer := fun address _ =>
      .error (failure s!"unexpected authentication challenge from {address.render}") }

def renderPlainText (username : String) : String :=
  "PlainTextAuthenticator \x7b username: " ++ Text.Quoted.quote username ++ ", .. \x7d"

def prepared (first : List UInt8) (answers : List (List UInt8)) : Authenticator :=
  { initial := fun _ _ => .ok first
    answer := fun _ challenges =>
      match answers[challenges.length - 1]? with
      | some token => .ok token
      | none => .error (failure "no answer left") }

end Authenticator

inductive AuthenticationStep where
  | initial (className : String)
  | challenge (token : Option (List UInt8))
  | success (token : Option (List UInt8))
  deriving DecidableEq, Repr

end CqlDriver
