import TabCompletion.Files.Path

/-! # Home directories

A path may start in a home directory: `~` is one's own, and `~` with a name behind it the one of the
user of that name. -/

namespace TabCompletion

/-- The home directories that a program finds around it, as they are given. -/
structure Homes where
  /-- The value of the variable that names one's own, if it is set. -/
  named : Option String
  /-- The one of the account that runs the program. -/
  account : Option String
  /-- The one of the account of this name. -/
  ofUser : String → Option String

/-- Why there is no home directory to start in. -/
inductive HomeFault
  /-- There is no such account, or its home directory starts with a `~` itself. -/
  | unknown
  /-- The name holds a NUL character, so that no account can be asked for. -/
  | holdsNul
deriving DecidableEq, Repr

namespace Homes

/-- The home directory of a user as it is given; the user without a name is the one who runs the
program. -/
def given? (homes : Homes) (user : String) : Option String :=
  if user = "" then homes.named <|> homes.account else homes.ofUser user

/-- The directory that is meant. Slashes at the end do not count; if nothing else is left it is the
root. -/
def directoryOf (home : String) : String :=
  match (home.toList.reverse.dropWhile (· == '/')).reverse with
  | [] => "/"
  | cs => String.ofList cs

def directory (homes : Homes) (user : String) : Except HomeFault String :=
  if user.toList.contains '\x00' then .error .holdsNul
  else
    match homes.given? user with
    | none => .error .unknown
    | some home =>
      if Text.beginsWith "~" (directoryOf home) then .error .unknown else .ok (directoryOf home)

end Homes

namespace Path

/-- The user in whose home directory a path starts, and the parts below that directory. -/
def housed? (path : Path) : Option (String × List String) :=
  match path.anchor, path.parts with
  | .here, first :: rest =>
    match first.toList with
    | '~' :: user => some (String.ofList user, rest)
    | _ => none
  | _, _ => none

/-- A path with the home directory in place of the `~` in front. -/
def expand (homes : Homes) (path : Path) : Except HomeFault Path :=
  match path.housed? with
  | none => .ok path
  | some (user, rest) => do
    let home ← homes.directory user
    return (ofString home).append rest

end Path

/-! ## Accounts -/

/-- An account of the machine. -/
structure Account where
  user : String
  number : String
  home : String

namespace Account

/-- An account by its line in the list of accounts, whose columns are separated by colons. -/
def ofLine? (line : String) : Option Account :=
  match line.splitOn ":" with
  | [user, _, number, _, _, home, _] => some ⟨user, number, home⟩
  | _ => none

end Account

/-- The home directories of some accounts, for a program that the account of a number runs. Of two
accounts the first counts. -/
def Homes.ofAccounts (named : Option String) (number : String) (accounts : List Account) :
    Homes where
  named
  account := (accounts.find? fun account => account.number = number).map Account.home
  ofUser user := (accounts.find? fun account => account.user = user).map Account.home

end TabCompletion
