import UntitledGame.Net.Protocol
import Mathlib.Algebra.Order.Ring.Unbundled.Rat

/-!
# `db::Database`

The two tables that Postgres keeps, and the statements that the database server
runs on them. Each statement is atomic and may fail, which its last argument
says; a method that fails leaves the tables as they were.

Text goes to Postgres as a C string, so a parameter ends at its first zero byte.
`lower` is the function of that name in Postgres. Accounts are unique up to
`lower`, tokens are unique, and deleting an account deletes its sessions. The
columns that nothing reads back (creation and login times) are left out.
-/

namespace UntitledGame.Server

open Net (Bytes)

/-- A row of `accounts`. -/
structure Account where
  id : Nat
  username : Bytes
  passwordHash : Bytes
  permissionLevel : Nat
  deriving DecidableEq, Repr

/-- A row of `sessions`. -/
structure SessionRow where
  token : Bytes
  accountId : Nat
  expiresAt : ℚ
  deriving DecidableEq, Repr

/-- `db::Session`: what a token resolves to. -/
structure Session where
  accountId : Nat
  username : Bytes
  permissionLevel : UInt8
  deriving DecidableEq, Repr

structure Database where
  accounts : List Account
  sessions : List SessionRow
  nextAccountId : Nat
  deriving DecidableEq, Repr

namespace Database

/-- `c_str()`, as the receiver reads it. -/
def cString (s : Bytes) : Bytes := s.takeWhile (· ≠ 0)

/-- The level as the server reads it from the column. -/
def levelOf (a : Account) : UInt8 := UInt8.ofNat a.permissionLevel

section Statements

variable (lower : Bytes → Bytes)

/-- `lower(username) = lower($1)`. -/
def named (username : Bytes) (a : Account) : Bool := lower a.username = lower (cString username)

/-- `none` when the statement fails, else whether there was such an account. -/
def setPermissionLevel (d : Database) (username : Bytes) (level : UInt8) (runs : Bool) :
    Database × Option Bool :=
  if !runs then (d, none)
  else
    ({ d with accounts := d.accounts.map fun a =>
        if named lower username a then { a with permissionLevel := level.toNat } else a },
      some (d.accounts.any (named lower username)))

def hasAdmin (d : Database) (runs : Bool) : Option Bool :=
  if !runs then none else some (d.accounts.any (2 ≤ ·.permissionLevel))

/-- `none` when the statement fails, else the account, if there is one. -/
def findAccount (d : Database) (username : Bytes) (runs : Bool) : Option (Option Account) :=
  if !runs then none else some (d.accounts.find? (named lower username))

/-- `none` when the statement fails, else the new account's id, or `none` on a conflict. -/
def createAccount (d : Database) (username passwordHash : Bytes) (runs : Bool) :
    Database × Option (Option Nat) :=
  if !runs then (d, none)
  else if d.accounts.any (named lower username) then (d, some none)
  else
    ({ d with
        accounts := d.accounts ++ [⟨d.nextAccountId, cString username, cString passwordHash, 0⟩]
        nextAccountId := d.nextAccountId + 1 }, some (some d.nextAccountId))

/-- The login time is not modelled. -/
def touchLastLogin (runs : Bool) : Bool := runs

/-- Sessions go with their account. -/
def deleteAccount (d : Database) (username : Bytes) (runs : Bool) : Database × Option Bool :=
  if !runs then (d, none)
  else
    let gone := d.accounts.filter (named lower username)
    ({ d with
        accounts := d.accounts.filter fun a => !named lower username a
        sessions := d.sessions.filter fun s => !gone.any (·.id = s.accountId) },
      some (!gone.isEmpty))

end Statements

/-- The insert fails on a token that exists and on an account that does not. -/
def createSession (d : Database) (accountId : Nat) (token : Bytes) (ttlSeconds : UInt32) (now : ℚ)
    (runs : Bool) : Database × Bool :=
  if !runs || d.sessions.any (·.token = cString token) || !d.accounts.any (·.id = accountId) then
    (d, false)
  else
    ({ d with sessions := d.sessions ++ [⟨cString token, accountId, now + ttlSeconds.toNat⟩] }, true)

/-- `none` when the statement fails, else the live session behind the token, with its account. -/
def lookupSession (d : Database) (token : Bytes) (now : ℚ) (runs : Bool) : Option (Option Session) :=
  if !runs then none
  else
    some (((d.sessions.filter fun s => s.token = cString token && now < s.expiresAt).flatMap fun s =>
      (d.accounts.filter (·.id = s.accountId)).map fun a =>
        (⟨s.accountId, a.username, levelOf a⟩ : Session)).head?)

def deleteSession (d : Database) (token : Bytes) (runs : Bool) : Database × Bool :=
  if !runs then (d, false)
  else ({ d with sessions := d.sessions.filter fun s => s.token ≠ cString token }, true)

def purgeExpiredSessions (d : Database) (now : ℚ) (runs : Bool) : Database :=
  if !runs then d else { d with sessions := d.sessions.filter fun s => now < s.expiresAt }

/-- A token that resolves has a row, and the level reported is the level of an account. -/
theorem lookupSession_found {d : Database} {token : Bytes} {now : ℚ} {runs : Bool} {s : Session}
    (h : d.lookupSession token now runs = some (some s)) :
    (∃ row ∈ d.sessions, row.token = cString token) ∧
      ∃ a ∈ d.accounts, s.permissionLevel = levelOf a := by
  simp only [lookupSession] at h
  split at h
  · cases h
  · have hmem := List.mem_of_head? (Option.some.inj h)
    obtain ⟨row, hrow, hs⟩ := List.mem_flatMap.mp hmem
    obtain ⟨a, ha, rfl⟩ := List.mem_map.mp hs
    obtain ⟨hsession, htoken⟩ := List.mem_filter.mp hrow
    simp only [Bool.and_eq_true, decide_eq_true_eq] at htoken
    exact ⟨⟨row, hsession, htoken.1⟩, a, (List.mem_filter.mp ha).1, rfl⟩

end Database

end UntitledGame.Server
