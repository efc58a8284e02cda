/-!
# TLS modes

How far a connection is to be encrypted and the server's certificate checked.
-/

namespace SchemaKit.Connection

/-- How far a connection is encrypted. -/
inductive SslMode
  | disable
  | allow
  | prefer
  | require
  | verifyCa
  | verifyFull
deriving DecidableEq

namespace SslMode

def name : SslMode → String
  | disable => "disable"
  | allow => "allow"
  | prefer => "prefer"
  | require => "require"
  | verifyCa => "verify-ca"
  | verifyFull => "verify-full"

def all : List SslMode :=
  [disable, allow, prefer, require, verifyCa, verifyFull]

/-- The mode of a connection that names none. -/
def standard : SslMode := prefer

/-- The mode of a name, with ASCII letters in either case. -/
def ofName? (text : String) : Option SslMode :=
  all.find? fun m => text.toList.map Char.toLower == m.name.toList

end SslMode

end SchemaKit.Connection
