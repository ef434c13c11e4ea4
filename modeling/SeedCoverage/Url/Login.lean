import SeedCoverage.Url.Percent

/-! Names and passwords in front of hosts. -/
namespace SeedCoverage.Url

open Text

/-- A name and perhaps a password, as they are spelled in front of a host. -/
structure Login where
  name : Text := []
  password : Option Text := none
  deriving DecidableEq, Repr

namespace Login

/-- Characters that are encoded in names and passwords. -/
def isEscaped (c : Char) : Bool := isEscapedInPath c || ("/:;=@[\\]^|" : Text).elem c

/-- The name and the password in a text; an empty password is none. -/
def ofText (text : Text) : Login :=
  let name := text.takeWhile (· != ':')
  let password := text.drop (name.length + 1)
  { name := percentEncode isEscaped name
    password := if password.isEmpty then none else some (percentEncode isEscaped password) }

def render (login : Login) : Text :=
  match login.name, login.password with
  | [], none => []
  | name, none => name ++ ['@']
  | name, some password => name ++ ':' :: password ++ ['@']

/-- Whether somebody can log in with it: the name is text, and it or the password says something. A
password that is not text says nothing. -/
def isUsable (login : Login) : Bool :=
  (Utf8.decode? (percentDecode login.name)).any fun name =>
    !name.isEmpty || login.password.any fun password =>
      (Utf8.decode? (percentDecode password)).isSome

end Login
end SeedCoverage.Url
