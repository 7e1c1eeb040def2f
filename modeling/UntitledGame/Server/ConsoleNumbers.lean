import UntitledGame.Lib.Decimals
import UntitledGame.Server.Console
import Mathlib.Data.List.TakeWhile

/-!
# The numbers of a console line

Four commands carry a number, and a number means what was typed: a level of 0 to 2, a
latency up to its cap, a time of day in hours and minutes. The code reads these numbers
with `std::atoi` and casts what it gets, so a text that is not a number may get through.
A line does what was typed, in every world, exactly when none of its numbers does.
-/

namespace UntitledGame.Server.Console

open Net Sim
open Lib.Decimals (number IsDigit digit number_eq_some number_of_foldl)

section Text

variable {text : Bytes} {n : Nat}

theorem isDigit_iff (c : UInt8) : isDigit c = true ↔ IsDigit c := by
  simp only [isDigit, IsDigit, Bool.and_eq_true, decide_eq_true_eq]

/-- A digit is no white space and no sign. -/
theorem signed_of_digits (h : ∀ c ∈ text, IsDigit c) : signed text = (false, text) := by
  cases text with
  | nil => rfl
  | cons c rest =>
      have hdigit : 48 ≤ c.toNat ∧ c.toNat ≤ 57 := h c List.mem_cons_self
      have hspace : ¬ isSpace c = true := by
        simp only [isSpace, Bool.or_eq_true, Bool.and_eq_true, decide_eq_true_eq,
          UInt8.le_iff_toNat_le, ← UInt8.toNat_inj]
        simp
        omega
      have hdrop : (c :: rest).dropWhile isSpace = c :: rest := List.dropWhile_cons_of_neg hspace
      rw [signed, hdrop]
      split
      · rename_i heq
        rw [(List.cons.inj heq).1] at hdigit
        exact absurd hdigit (by decide)
      · rename_i heq
        rw [(List.cons.inj heq).1] at hdigit
        exact absurd hdigit (by decide)
      · rfl

/-- A decimal text is read to its end. -/
theorem strtol_of_number (h : number text = some n) : strtol text = min (n : Int) (2 ^ 63 - 1) := by
  obtain ⟨-, hdigits, hn⟩ := number_eq_some.mp h
  have htake : text.takeWhile isDigit = text :=
    List.takeWhile_eq_self_iff.mpr fun c hc => (isDigit_iff c).mpr (hdigits c hc)
  have hcast : ∀ (rest : Bytes) (k : Nat), (∀ c ∈ rest, IsDigit c) →
      rest.foldl (fun (m : Int) c => 10 * m + (c.toNat - 48)) (k : Int) =
        (rest.foldl (fun m c => 10 * m + digit c) k : Nat) := by
    intro rest
    induction rest with
    | nil => exact fun _ _ => rfl
    | cons c rest ih =>
        intro k hrest
        have hdigit : 48 ≤ c.toNat := (hrest c List.mem_cons_self).1
        have htail := ih (10 * k + digit c) fun c hc => hrest c (List.mem_cons_of_mem _ hc)
        rw [List.foldl_cons, List.foldl_cons, ← htail]
        congr 1
        rw [digit]
        omega
  rw [strtol, signed_of_digits hdigits]
  simp only [htake, Bool.false_eq_true, if_false]
  rw [← hn, Lib.Decimals.ofDigits_eq_foldl, ← hcast text 0 hdigits]
  rfl

/-- `atoi` keeps the low 32 bits. -/
theorem atoi_emod (text : Bytes) : atoi text % 2 ^ 32 = strtol text % 2 ^ 32 := by
  rw [atoi, Int32.toInt_ofInt]
  exact Int.bmod_emod

theorem atoi_range (text : Bytes) : -2 ^ 31 ≤ atoi text ∧ atoi text < 2 ^ 31 :=
  ⟨Int32.le_toInt _, Int32.toInt_lt _⟩

/-- The level that a text is cast to, and the latency. -/
theorem toNat_level (text : Bytes) :
    ((UInt8.ofInt (atoi text)).toNat : Int) = strtol text % 256 := by
  have hlow := atoi_emod text
  rw [UInt8.ofInt, UInt8.toNat_ofNat']
  omega

theorem toNat_latency (text : Bytes) :
    ((UInt32.ofInt (atoi text)).toNat : Int) = strtol text % 2 ^ 32 := by
  have hlow := atoi_emod text
  rw [UInt32.ofInt, UInt32.toNat_ofNat']
  omega

end Text

/-- A command that carries a number. -/
inductive Numbered where
  | level (name digits : Bytes)
  | create (name password digits : Bytes)
  | latency (digits : Bytes)
  | time (text : Bytes)
  deriving DecidableEq, Repr

/-- The number of a line; the words behind it are not read. -/
def numbered : List Bytes → Option Numbered
  | command :: verb :: value :: rest =>
      if command = ascii "latency" then
        if verb = ascii "set" then some (.latency value) else none
      else if command = ascii "time" then
        if verb = ascii "set" then some (.time value) else none
      else if command = ascii "account" then
        match rest with
        | digits :: more =>
            if verb = ascii "level" then some (.level value digits)
            else
              match more with
              | level :: _ =>
                  if verb = ascii "create" then some (.create value digits level) else none
              | [] => none
        | [] => none
      else none
  | _ => none

/-- A text of hours and minutes, each a decimal text. -/
def IsClock (text : Bytes) (hours mins : Nat) : Prop :=
  ∃ before after, text = before ++ 58 :: after ∧ number before = some hours ∧
    number after = some mins ∧ hours ≤ 23 ∧ mins ≤ 59

variable {F : Type*} [Scalar F]

/-- The world with its clock at a minute of the day. -/
def withMinute (setup : Setup F) (w : WorldServer F) (now : ClockReading F) (minute : Nat) :
    WorldServer F :=
  { w with simulation :=
      w.simulation.setTimeOfDay setup.phys ((minute : F) / (24.0 * 60.0)) now }

namespace Numbered

/-- The world after a command does what was typed: what its number says, or nothing at all when
that is not a number, or out of range. -/
def Meant (setup : Setup F) (w : WorldServer F) (hashed : Option Bytes) (now : ClockReading F)
    (c : Numbered) (w' : WorldServer F) : Prop :=
  match c with
  | .level name digits =>
      (∀ n ≤ 2, number digits = some n → w' = request w (.accountSetLevel name (UInt8.ofNat n))) ∧
        ((¬ ∃ n ≤ 2, number digits = some n) → w' = w)
  | .create name password digits =>
      (∀ n ≤ 2, number digits = some n →
        w' = if password.length < 6 then w else
          match hashed with
          | none => w
          | some hash => request w (.accountCreateWithLevel name hash (UInt8.ofNat n))) ∧
        ((¬ ∃ n ≤ 2, number digits = some n) → w' = w)
  | .latency digits =>
      (∀ n, number digits = some n →
        w' = { w with simulatedLatencyMs := UInt32.ofNat (min n 2000) }) ∧
        (number digits = none → w' = w)
  | .time text =>
      (∀ hours mins, IsClock text hours mins →
        w' = withMinute setup w now (hours * 60 + mins)) ∧
        ((¬ ∃ hours mins, IsClock text hours mins) → w' = w)

/-- The texts that no cast lets through: a level is one or its low byte is above the highest, a
short password stops the creation, a latency is a number that is still above the cap when its low
32 bits are, and a time is one, or has no colon, or a part that is out of range. -/
def Plain : Numbered → Prop
  | .level _ digits => (∃ n ≤ 2, number digits = some n) ∨ 2 < strtol digits % 256
  | .create _ password digits => (∃ n ≤ 2, number digits = some n) ∨ password.length < 6
  | .latency digits =>
      ∃ n, number digits = some n ∧ (n ≤ 2000 ∨ 2000 ≤ n % 2 ^ 32 ∨ 2 ^ 63 ≤ n)
  | .time text =>
      (∃ hours mins, IsClock text hours mins) ∨ 58 ∉ text ∨
        23 < strtol (text.takeWhile (· ≠ 58)) % 2 ^ 32 ∨
        59 < strtol (text.dropWhile (· ≠ 58)).tail % 2 ^ 32

/-- What the code does with a command. -/
def perform (setup : Setup F) (w : WorldServer F) (hashed : Option Bytes) (now : ClockReading F) :
    Numbered → WorldServer F
  | .level name digits => setLevel w name digits
  | .create name password digits => createAccount w hashed name password [digits]
  | .latency digits => latencyCommand w [ascii "set", digits]
  | .time text => setClock setup w text now

end Numbered

section Lines

variable (atof : Bytes → F) (setup : Setup F) {w : WorldServer F} {c : Numbered}

/-- The words of a command with a number. -/
theorem numbered_inv {line : List Bytes} (h : numbered line = some c) :
    ∃ more, line =
      match c with
      | .level name digits => ascii "account" :: ascii "level" :: name :: digits :: more
      | .create name password digits =>
          ascii "account" :: ascii "create" :: name :: password :: digits :: more
      | .latency digits => ascii "latency" :: ascii "set" :: digits :: more
      | .time text => ascii "time" :: ascii "set" :: text :: more := by
  rw [numbered.eq_def] at h
  split at h
  · rename_i command verb value rest
    split at h
    · rename_i hcommand
      split at h
      · rename_i hverb
        cases h
        exact ⟨rest, by rw [hcommand, hverb]⟩
      · cases h
    · split at h
      · rename_i hcommand
        split at h
        · rename_i hverb
          cases h
          exact ⟨rest, by rw [hcommand, hverb]⟩
        · cases h
      · split at h
        · rename_i hcommand
          split at h
          · rename_i digits more
            split at h
            · rename_i hverb
              cases h
              exact ⟨more, by rw [hcommand, hverb]⟩
            · split at h
              · rename_i level others
                split at h
                · rename_i hverb
                  cases h
                  exact ⟨others, by rw [hcommand, hverb]⟩
                · cases h
              · cases h
          · cases h
        · cases h
  · cases h

/-- A line with a number performs its command. -/
theorem runConsoleCommand_numbered {line : Bytes} (h : numbered (words line) = some c)
    (hashed : Option Bytes) (now : ClockReading F) :
    runConsoleCommand atof setup w line hashed now = c.perform setup w hashed now := by
  obtain ⟨more, hwords⟩ := numbered_inv h
  rw [runConsoleCommand, hwords]
  cases c with
  | level name digits => rfl
  | create name password digits => rfl
  | latency digits => rfl
  | time text => rfl

omit [Scalar F] in
theorem request_ne (w : WorldServer F) (body : DbRequest) : request w body ≠ w := by
  intro h
  have hlength := congrArg (fun w : WorldServer F => w.dbClient.requests.length) h
  simp [request, DbClient.call] at hlength

section Levels

variable {name password digits : Bytes} {n : Nat}

/-- The level of a decimal text, and that of any other text. -/
theorem level_of_number (h : number digits = some n) (hn : n ≤ 2) :
    UInt8.ofInt (atoi digits) = UInt8.ofNat n := by
  have hlevel := toNat_level digits
  rw [strtol_of_number h] at hlevel
  rw [← UInt8.toNat_inj, UInt8.toNat_ofNat']
  omega

theorem admin_lt_level_iff :
    PermissionLevel.admin.toU8 < UInt8.ofInt (atoi digits) ↔ 2 < strtol digits % 256 := by
  have hadmin : PermissionLevel.admin.toU8.toNat = 2 := rfl
  rw [UInt8.lt_iff_toNat_lt, hadmin, ← toNat_level]
  omega

theorem meant_level_iff (w₀ : WorldServer F) (now₀ : ClockReading F) :
    (∀ (w : WorldServer F) hashed now, (Numbered.level name digits).Meant setup w hashed now
        ((Numbered.level name digits).perform setup w hashed now)) ↔
      (Numbered.level name digits).Plain := by
  simp only [Numbered.Meant, Numbered.perform, Numbered.Plain, setLevel]
  by_cases htyped : ∃ n ≤ 2, number digits = some n
  · refine iff_of_true (fun w hashed now => ⟨?_, fun hnone => absurd htyped hnone⟩) (Or.inl htyped)
    intro n hn hnumber
    have hrange : ¬ PermissionLevel.admin.toU8 < UInt8.ofInt (atoi digits) := by
      rw [admin_lt_level_iff, strtol_of_number hnumber]
      omega
    rw [if_neg hrange, level_of_number hnumber hn]
  · rw [or_iff_right htyped, ← admin_lt_level_iff]
    constructor
    · intro h
      by_contra hrange
      have hsame := (h w₀ none now₀).2 htyped
      rw [if_neg hrange] at hsame
      exact request_ne w₀ _ hsame
    · intro hrange w hashed now
      rw [if_pos hrange]
      exact ⟨fun n hn h => absurd ⟨n, hn, h⟩ htyped, fun _ => rfl⟩

theorem meant_create_iff (w₀ : WorldServer F) (now₀ : ClockReading F) :
    (∀ (w : WorldServer F) hashed now,
        (Numbered.create name password digits).Meant setup w hashed now
          ((Numbered.create name password digits).perform setup w hashed now)) ↔
      (Numbered.create name password digits).Plain := by
  simp only [Numbered.Meant, Numbered.perform, Numbered.Plain, createAccount]
  by_cases htyped : ∃ n ≤ 2, number digits = some n
  · refine iff_of_true (fun w hashed now => ⟨?_, fun hnone => absurd htyped hnone⟩) (Or.inl htyped)
    intro n hn hnumber
    have hlevel := level_of_number hnumber hn
    generalize UInt8.ofInt (atoi digits) = level at hlevel ⊢
    subst hlevel
    cases hashed with
    | none => rfl
    | some hash => rfl
  · rw [or_iff_right htyped]
    constructor
    · intro h
      by_contra hlong
      have hsame := (h w₀ (some []) now₀).2 htyped
      rw [if_neg hlong] at hsame
      exact request_ne w₀ _ hsame
    · intro hshort w hashed now
      rw [if_pos hshort]
      exact ⟨fun n hn h => absurd ⟨n, hn, h⟩ htyped, fun _ => rfl⟩

end Levels

/-- The latency that a text sets. -/
theorem toNat_capped (digits : Bytes) :
    ((min (UInt32.ofInt (atoi digits)) 2000).toNat : Int) =
      min (strtol digits % 2 ^ 32) 2000 := by
  have hlatency := toNat_latency digits
  rw [UInt32.toNat_min]
  simp
  omega

theorem meant_latency_iff (w₀ : WorldServer F) (now₀ : ClockReading F) (digits : Bytes) :
    (∀ (w : WorldServer F) hashed now, (Numbered.latency digits).Meant setup w hashed now
        ((Numbered.latency digits).perform setup w hashed now)) ↔
      (Numbered.latency digits).Plain := by
  simp only [Numbered.Meant, Numbered.perform, Numbered.Plain, latencyCommand, if_true]
  have hcapped := toNat_capped digits
  cases hnumber : number digits with
  | none =>
      refine iff_of_false (fun h => ?_) fun ⟨n, hn, _⟩ => nomatch hn
      have hsame := (h { w₀ with simulatedLatencyMs := 3000 } none now₀).2 rfl
      have hlatency : min (UInt32.ofInt (atoi digits)) 2000 = 3000 :=
        congrArg WorldServer.simulatedLatencyMs hsame
      rw [hlatency] at hcapped
      simp at hcapped
      omega
  | some n =>
      rw [strtol_of_number hnumber] at hcapped
      have hvalue : min (UInt32.ofInt (atoi digits)) 2000 = UInt32.ofNat (min n 2000) ↔
          n ≤ 2000 ∨ 2000 ≤ n % 2 ^ 32 ∨ 2 ^ 63 ≤ n := by
        rw [← UInt32.toNat_inj, UInt32.toNat_ofNat']
        omega
      constructor
      · intro h
        have hsame := (h w₀ none now₀).1 n rfl
        exact ⟨n, rfl, hvalue.mp (congrArg WorldServer.simulatedLatencyMs hsame)⟩
      · rintro ⟨m, hm, hcap⟩ w hashed now
        cases hm
        refine ⟨?_, fun hnone => nomatch hnone⟩
        intro k hk
        cases hk
        rw [hvalue.mpr hcap]

section Times

variable {text : Bytes} {hours mins : Nat}

/-- The parts of a time are what is before its first colon and what is behind it. -/
theorem IsClock.parts (h : IsClock text hours mins) :
    58 ∈ text ∧ number (text.takeWhile (· ≠ 58)) = some hours ∧
      number (text.dropWhile (· ≠ 58)).tail = some mins ∧ hours ≤ 23 ∧ mins ≤ 59 := by
  obtain ⟨before, after, rfl, hbefore, hafter, hrange⟩ := h
  have hcolon : ∀ c ∈ before, decide (c ≠ 58) = true := by
    intro c hc
    have hdigit : c.toNat ≤ 57 := (Lib.Decimals.isDigit_of_number hbefore hc).2
    rw [decide_eq_true_eq]
    rintro rfl
    exact absurd hdigit (by decide)
  rw [List.takeWhile_append_of_pos hcolon, List.dropWhile_append_of_pos hcolon]
  simp [hbefore, hafter, hrange]

theorem atoi_out_iff (text : Bytes) {limit : Int} (h : 0 ≤ limit ∧ limit < 2 ^ 31) :
    atoi text < 0 ∨ limit < atoi text ↔ limit < strtol text % 2 ^ 32 := by
  have hlow := atoi_emod text
  have hrange := atoi_range text
  omega

theorem atoi_of_number {n : Nat} (h : number text = some n) (hn : n < 2 ^ 31) :
    atoi text = n := by
  have hlow := atoi_emod text
  have hrange := atoi_range text
  rw [strtol_of_number h] at hlow
  omega

theorem setClock_of_isClock (h : IsClock text hours mins) (w : WorldServer F)
    (now : ClockReading F) :
    setClock setup w text now = withMinute setup w now (hours * 60 + mins) := by
  obtain ⟨hcolon, hbefore, hafter, hhours, hmins⟩ := h.parts
  rw [setClock, if_neg (not_not_intro hcolon), atoi_of_number hbefore (by omega),
    atoi_of_number hafter (by omega)]
  have hin : ¬ ((hours : Int) < 0 || 23 < (hours : Int) || (mins : Int) < 0 ||
      59 < (mins : Int)) = true := by
    simp
    omega
  rw [if_neg hin]
  rfl

/-- A time that is out of range is refused, and no other with a colon is. -/
theorem setClock_of_out (h : 58 ∉ text ∨ 23 < strtol (text.takeWhile (· ≠ 58)) % 2 ^ 32 ∨
    59 < strtol (text.dropWhile (· ≠ 58)).tail % 2 ^ 32) (w : WorldServer F)
    (now : ClockReading F) : setClock setup w text now = w := by
  rw [← atoi_out_iff _ (by decide), ← atoi_out_iff _ (by decide)] at h
  rw [setClock]
  split
  · rfl
  · rename_i hcolon
    rw [if_pos]
    simp only [Bool.or_eq_true, decide_eq_true_eq]
    tauto

theorem setClock_anchor (h : ¬ (58 ∉ text ∨ 23 < strtol (text.takeWhile (· ≠ 58)) % 2 ^ 32 ∨
    59 < strtol (text.dropWhile (· ≠ 58)).tail % 2 ^ 32)) (w : WorldServer F)
    (now : ClockReading F) :
    (setClock setup w text now).simulation.mAnchorRealSeconds = now.realSeconds := by
  rw [← atoi_out_iff _ (by decide), ← atoi_out_iff _ (by decide)] at h
  rw [setClock, if_neg (fun hcolon => h (Or.inl hcolon)), if_neg]
  · rfl
  · simp only [Bool.or_eq_true, decide_eq_true_eq]
    tauto

end Times

theorem meant_time_iff [Nontrivial F] (w₀ : WorldServer F) (text : Bytes) :
    (∀ (w : WorldServer F) hashed now, (Numbered.time text).Meant setup w hashed now
        ((Numbered.time text).perform setup w hashed now)) ↔
      (Numbered.time text).Plain := by
  simp only [Numbered.Meant, Numbered.perform, Numbered.Plain]
  by_cases htyped : ∃ hours mins, IsClock text hours mins
  · refine iff_of_true (fun w hashed now => ⟨?_, fun hnone => absurd htyped hnone⟩) (Or.inl htyped)
    exact fun hours mins hclock => setClock_of_isClock setup hclock w now
  · rw [or_iff_right htyped]
    constructor
    · intro h
      by_contra hin
      obtain ⟨a, b, hab⟩ := exists_pair_ne F
      have hsame := (h { w₀ with simulation := { w₀.simulation with mAnchorRealSeconds := a } }
        none ⟨b, b⟩).2 htyped
      have hanchor := congrArg (fun w : WorldServer F => w.simulation.mAnchorRealSeconds) hsame
      dsimp only at hanchor
      rw [setClock_anchor setup hin] at hanchor
      exact hab hanchor.symm
    · intro hout w hashed now
      exact ⟨fun hours mins hclock => absurd ⟨hours, mins, hclock⟩ htyped,
        fun _ => setClock_of_out setup hout w now⟩

/-- In every world, a line does what was typed exactly when its number is one that means itself, or
that is refused. -/
theorem runConsoleCommand_meant_iff [Nontrivial F] (line : Bytes) :
    (∀ (w : WorldServer F) hashed now c, numbered (words line) = some c →
        c.Meant setup w hashed now (runConsoleCommand atof setup w line hashed now)) ↔
      ∀ c, numbered (words line) = some c → c.Plain := by
  obtain ⟨a, -, -⟩ := exists_pair_ne F
  have hperform : (∀ (w : WorldServer F) hashed now c, numbered (words line) = some c →
        c.Meant setup w hashed now (runConsoleCommand atof setup w line hashed now)) ↔
      ∀ c, numbered (words line) = some c → ∀ (w : WorldServer F) hashed now,
        c.Meant setup w hashed now (c.perform setup w hashed now) := by
    constructor
    · intro h c hc w hashed now
      rw [← runConsoleCommand_numbered atof setup hc]
      exact h w hashed now c hc
    · intro h w hashed now c hc
      rw [runConsoleCommand_numbered atof setup hc]
      exact h c hc w hashed now
  rw [hperform]
  let now₀ : ClockReading F := ⟨a, a⟩
  let w₀ := WorldServer.init setup now₀
  refine forall₂_congr fun c _ => ?_
  cases c with
  | level name digits => exact meant_level_iff setup w₀ now₀
  | create name password digits => exact meant_create_iff setup w₀ now₀
  | latency digits => exact meant_latency_iff setup w₀ now₀ digits
  | time text => exact meant_time_iff setup w₀ text

end Lines

/-- The level 256 is level 0. -/
theorem account_level_wraps :
    ¬ ∀ (w : WorldServer ℚ) hashed now c,
      numbered (words (ascii "account level bob 256")) = some c →
        c.Meant Setup.level w hashed now
          (runConsoleCommand (fun _ => 0) Setup.level w (ascii "account level bob 256") hashed
            now) := by
  intro h
  let w : WorldServer ℚ := .init Setup.level Clocks.noon.clock
  have hline : numbered (words (ascii "account level bob 256")) =
      some (.level (ascii "bob") (ascii "256")) := by decide
  have hnumber : number (ascii "256") = some 256 :=
    number_of_foldl (by decide) (by decide) (by decide)
  have hrange : ¬ ∃ n ≤ 2, number (ascii "256") = some n := by
    rintro ⟨n, hn, hsome⟩
    cases hnumber.symm.trans hsome
    exact absurd hn (by decide)
  have hsame := (h w none Clocks.noon.clock _ hline).2 hrange
  rw [runConsoleCommand_numbered _ _ hline] at hsame
  have hbyte : ¬ PermissionLevel.admin.toU8 < UInt8.ofInt (atoi (ascii "256")) := by decide
  rw [Numbered.perform, setLevel, if_neg hbyte] at hsame
  exact request_ne w _ hsame

/-- A latency is read, and one with its unit is not refused. -/
theorem runConsoleCommand_meant_latency :
    (∀ (w : WorldServer ℚ) hashed now c, numbered (words (ascii "latency set 150")) = some c →
        c.Meant Setup.level w hashed now
          (runConsoleCommand (fun _ => 0) Setup.level w (ascii "latency set 150") hashed now)) ∧
      ¬ ∀ (w : WorldServer ℚ) hashed now c,
        numbered (words (ascii "latency set ms150")) = some c →
          c.Meant Setup.level w hashed now
            (runConsoleCommand (fun _ => 0) Setup.level w (ascii "latency set ms150") hashed
              now) := by
  constructor
  · rw [runConsoleCommand_meant_iff]
    intro c hc
    have hline : numbered (words (ascii "latency set 150")) = some (.latency (ascii "150")) := by
      decide
    cases hline.symm.trans hc
    exact ⟨150, number_of_foldl (by decide) (by decide) (by decide), Or.inl (by decide)⟩
  · rw [runConsoleCommand_meant_iff]
    intro h
    have hline : numbered (words (ascii "latency set ms150")) =
      some (.latency (ascii "ms150")) := by decide
    obtain ⟨n, hn, -⟩ := h _ hline
    have hnone : number (ascii "ms150") = none :=
      Lib.Decimals.number_eq_none (by decide)
    exact nomatch hnone.symm.trans hn

end UntitledGame.Server.Console
