import SeriesQuery.Text.Pieces
import SeriesQuery.Url.Percent

/-!
# User info

A name and a password that stand before the host of an address. Both are kept with percent signs for
all characters that would end them.
-/

namespace SeriesQuery

structure UserInfo where
  username : List Char
  password : List Char
  deriving DecidableEq

namespace UserInfo

def none : UserInfo := ⟨[], []⟩

def isReserved (c : Char) : Bool :=
  c.toNat ≤ 0x20 || c.toNat == 0x7F || c.toNat == 0x60 ||
    ['"', '#', '<', '>', '?', '{', '}', '/', ':', ';', '=', '@', '[', '\\', ']', '^', '|'].contains c

/-- The password starts after the first colon. -/
def parse (text : List Char) : UserInfo :=
  let (username, password) := (splitFirst? ':' text).getD (text, [])
  ⟨Percent.encode isReserved username, Percent.encode isReserved password⟩

def isEmpty (u : UserInfo) : Bool := u.username.isEmpty && u.password.isEmpty

/-- The text before the host. An empty password has no colon, and empty user info no at sign. -/
def text (u : UserInfo) : List Char :=
  if u.isEmpty then []
  else u.username ++ (if u.password.isEmpty then [] else ':' :: u.password) ++ ['@']

end UserInfo

end SeriesQuery
