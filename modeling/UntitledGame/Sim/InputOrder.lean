import UntitledGame.Sim.Acknowledgement

/-!
# The order in which inputs arrive

Inputs reach the simulation over UDP, and through the simulated link behind it,
in any order and more than once. A player has one slot for them. The sequence
numbers make this slot a register that keeps the newest input: `Latest` is its
invariant, and `input_order` says what follows for the order of arrival.

A tick uses up the jump of the stored input and nothing else. So what survives
the ticks is the `intent` of the newest input, and its jump does while no tick
has come after a delivery.
-/

namespace UntitledGame.Sim.InputOrder

open Simulation Acknowledgement

variable {F : Type*} [Scalar F]

/-- What a tick leaves of the stored input: its sequence, axes, yaw and sprint. -/
def intent (input : CharacterInput F) : UInt32 × F × F × F × Bool :=
  (input.sequence, input.moveForward, input.moveRight, input.yaw, input.sprint)

/-- The input with the greatest sequence number among those delivered. -/
def Newest (delivered : List (CharacterInput F)) (input : CharacterInput F) : Prop :=
  input ∈ delivered ∧ ∀ i ∈ delivered, i.sequence ≤ input.sequence

/-- The calls deliver inputs of the set and keep the player. -/
def Delivers (p : Nat) (inputs : List (CharacterInput F)) (calls : List (Call F)) : Prop :=
  (∀ c ∈ calls, c ≠ .removePlayer p) ∧ ∀ i ∈ offered p calls, i ∈ inputs

instance [DecidableEq F] (p : Nat) (inputs : List (CharacterInput F)) (calls : List (Call F)) :
    Decidable (Delivers p inputs calls) :=
  inferInstanceAs (Decidable (_ ∧ _))

/-- No tick comes after a delivery. -/
def Unticked (p : Nat) (calls : List (Call F)) : Prop :=
  ∀ pre deltaSeconds now post, calls = pre ++ .step deltaSeconds now :: post → offered p pre = []

/-- A player is added, and calls follow. -/
def after (phys : Physics F) (s : Simulation F) (p : Nat) (calls : List (Call F)) : Simulation F :=
  Lib.Runs.run (call phys) (s.addPlayer phys p).1 calls

/-- The player's slot, given what was delivered for it. -/
structure Latest (player : SimPlayer F) (delivered : List (CharacterInput F)) : Prop where
  bound : ∀ i ∈ delivered, i.sequence ≤ player.input.sequence
  source : delivered = [] ∧ player.input = CharacterInput.default ∨
    ∃ i ∈ delivered, intent player.input = intent i
  acked : player.lastInputSequence ≤ player.input.sequence

omit [Scalar F] in
theorem Newest.unique {delivered : List (CharacterInput F)} {i j : CharacterInput F}
    (hdistinct : ∀ a ∈ delivered, ∀ b ∈ delivered, a.sequence = b.sequence → a = b)
    (hi : Newest delivered i) (hj : Newest delivered j) : i = j := by
  apply hdistinct i hi.1 j hj.1
  exact UInt32.le_antisymm (hj.2 i hi.1) (hi.2 j hj.1)

/-- The slot holds the intent of the newest input. -/
theorem Latest.newest {player : SimPlayer F} {delivered : List (CharacterInput F)}
    (h : Latest player delivered) (hsome : delivered ≠ []) :
    ∃ i, Newest delivered i ∧ intent player.input = intent i := by
  rcases h.source with ⟨hnil, -⟩ | ⟨i, hi, heq⟩
  · exact absurd hnil hsome
  · have hsequence : player.input.sequence = i.sequence := congrArg Prod.fst heq
    refine ⟨i, ⟨hi, ?_⟩, heq⟩
    intro j hj
    rw [← hsequence]
    exact h.bound j hj

omit [Scalar F] in
/-- A refused input is numbered and older than the stored one. -/
theorem older_of_refused {stored input : CharacterInput F} (h : accepts stored input = false) :
    input.sequence < stored.sequence := by
  have hboth : input.sequence ≠ 0 ∧ input.sequence < stored.sequence := by
    simpa [accepts] using h
  exact hboth.2

omit [Scalar F] in
/-- A numbered input that is accepted is not older than the stored one. -/
theorem le_of_accepts {stored input : CharacterInput F} (h : accepts stored input = true)
    (hpos : input.sequence ≠ 0) : stored.sequence ≤ input.sequence := by
  simpa [accepts, hpos] using h

section Step

variable {phys : Physics F} {p : Nat} {player player' : SimPlayer F} {ledger ledger' : Ledger F}
  {c : Call F}

theorem latest_effect (e : Effect phys p player ledger c player' ledger')
    {delivered : List (CharacterInput F)} (h : Latest player delivered)
    (hpos : ∀ i ∈ offers p c, i.sequence ≠ 0) : Latest player' (delivered ++ offers p c) := by
  cases e with
  | none c hall hrefused =>
      have holder : ∀ i ∈ offers p c, i.sequence < player.input.sequence := fun i hi =>
        older_of_refused (hrefused i hi)
      refine ⟨?_, ?_, h.acked⟩
      · intro i hi
        cases List.mem_append.mp hi with
        | inl hi => exact h.bound i hi
        | inr hi => exact UInt32.le_of_lt (holder i hi)
      · rcases h.source with ⟨rfl, hempty⟩ | ⟨i, hi, heq⟩
        · -- an empty slot refuses nothing
          have hnone : offers p c = [] := by
            apply List.eq_nil_iff_forall_not_mem.mpr
            intro i hi
            have hlt := holder i hi
            rw [hempty] at hlt
            exact UInt32.not_lt_zero hlt
          exact Or.inl ⟨by simp [hnone], hempty⟩
        · exact Or.inr ⟨i, List.mem_append_left _ hi, heq⟩
  | stored input haccepts =>
      have hle : player.input.sequence ≤ input.sequence :=
        le_of_accepts haccepts (hpos input (by simp [offers]))
      refine ⟨?_, Or.inr ⟨input, by simp [offers], rfl⟩, UInt32.le_trans h.acked hle⟩
      intro i hi
      cases List.mem_append.mp hi with
      | inl hi => exact UInt32.le_trans (h.bound i hi) hle
      | inr hi =>
          obtain rfl : i = input := by simpa [offers] using hi
          exact UInt32.le_refl _
  | ticked deltaSeconds now =>
      simp only [offers, List.append_nil]
      refine ⟨h.bound, ?_, UInt32.le_refl _⟩
      rcases h.source with ⟨hnil, hempty⟩ | hsome
      · exact Or.inl ⟨hnil, by simp [stepPlayer, hempty, CharacterInput.default]⟩
      · exact Or.inr hsome

/-- Acknowledgements do not go back. -/
theorem acked_effect (e : Effect phys p player ledger c player' ledger')
    (h : player.lastInputSequence ≤ player.input.sequence) :
    player.lastInputSequence ≤ player'.lastInputSequence := by
  cases e with
  | none => exact UInt32.le_refl _
  | stored input haccepts => exact UInt32.le_refl _
  | ticked deltaSeconds now => exact h

/-- Until a tick, the slot holds a delivered input as it came. -/
theorem delivered_effect (e : Effect phys p player ledger c player' ledger')
    {delivered : List (CharacterInput F)} (h : delivered = [] ∨ player.input ∈ delivered)
    (hlatest : Latest player delivered)
    (htick : ∀ deltaSeconds now, c = .step deltaSeconds now → delivered = []) :
    delivered ++ offers p c = [] ∨ player'.input ∈ delivered ++ offers p c := by
  cases e with
  | none c hall hrefused =>
      rcases h with rfl | hmem
      · cases hoffers : offers p c with
        | nil => exact Or.inl rfl
        | cons i rest =>
            have hlt := older_of_refused (hrefused i (by simp [hoffers]))
            rcases hlatest.source with ⟨-, hempty⟩ | ⟨j, hj, -⟩
            · rw [hempty] at hlt
              exact absurd hlt UInt32.not_lt_zero
            · cases hj
      · exact Or.inr (List.mem_append_left _ hmem)
  | stored input haccepts => exact Or.inr (by simp [offers])
  | ticked deltaSeconds now => exact Or.inl (by simp [htick _ _ rfl, offers])

end Step

/-- One call, seen from a player that it does not remove. -/
theorem call_effect (phys : Physics F) {p : Nat} {s : Simulation F} {player : SimPlayer F}
    (h : s.mPlayers[p]? = some player) {c : Call F} (hc : c ≠ .removePlayer p) :
    ∃ player' ledger', (s.call phys c).mPlayers[p]? = some player' ∧
      Effect phys p player ⟨[], [], []⟩ c player' ledger' := by
  obtain ⟨player', hplayer', heffect⟩ := track_effect phys p (t := ⟨s, ⟨[], [], []⟩⟩) h hc
  exact ⟨player', _, hplayer', heffect⟩

omit [Scalar F] in
theorem offered_concat (p : Nat) (calls : List (Call F)) (c : Call F) :
    offered p (calls ++ [c]) = offered p calls ++ offers p c := by
  simp [offered]

theorem after_concat (phys : Physics F) (s : Simulation F) (p : Nat) (calls : List (Call F))
    (c : Call F) : after phys s p (calls ++ [c]) = (after phys s p calls).call phys c :=
  Lib.Runs.run_concat _ _ _ _

omit [Scalar F] in
theorem Delivers.of_append {p : Nat} {inputs : List (CharacterInput F)} {pre post : List (Call F)}
    (h : Delivers p inputs (pre ++ post)) : Delivers p inputs pre := by
  refine ⟨fun c hc => h.1 c (List.mem_append_left _ hc), fun i hi => h.2 i ?_⟩
  simp only [offered, List.flatMap_append, List.mem_append]
  exact Or.inl hi

section Run

variable (phys : Physics F) {s : Simulation F} {p : Nat} {inputs : List (CharacterInput F)}
  (hnone : s.mPlayers[p]? = none) (hpos : ∀ i ∈ inputs, i.sequence ≠ 0)

include hnone hpos

/-- After every delivery the slot is the register of the newest input. -/
theorem after_latest (calls : List (Call F)) (hdelivers : Delivers p inputs calls) :
    ∃ player, (after phys s p calls).mPlayers[p]? = some player ∧
      Latest player (offered p calls) ∧
      (Unticked p calls → offered p calls = [] ∨ player.input ∈ offered p calls) := by
  -- induction on the calls from the end, so that the last call meets what was delivered before it
  induction calls using List.reverseRecOn with
  | nil =>
      refine ⟨_, addPlayer_entry phys hnone, ⟨by simp [offered], Or.inl ⟨rfl, rfl⟩, ?_⟩, ?_⟩
      · exact UInt32.le_refl _
      · exact fun _ => Or.inl rfl
  | append_singleton calls c ih =>
      obtain ⟨player, hplayer, hlatest, hexact⟩ := ih hdelivers.of_append
      obtain ⟨player', ledger', hplayer', heffect⟩ :=
        call_effect phys hplayer (hdelivers.1 c (by simp))
      rw [after_concat, offered_concat]
      refine ⟨player', hplayer', latest_effect heffect hlatest ?_, ?_⟩
      · intro i hi
        apply hpos i (hdelivers.2 i _)
        rw [offered_concat]
        exact List.mem_append_right _ hi
      · intro hunticked
        have hbefore : Unticked p calls := fun pre deltaSeconds now post heq =>
          hunticked pre deltaSeconds now (post ++ [c]) (by simp [heq])
        refine delivered_effect heffect (hexact hbefore) hlatest ?_
        rintro deltaSeconds now rfl
        exact hunticked calls deltaSeconds now [] rfl

/-- The acknowledgement of a player does not go back as calls follow. -/
theorem acked_mono (pre post : List (Call F)) (hdelivers : Delivers p inputs (pre ++ post)) :
    ∃ before later, (after phys s p pre).mPlayers[p]? = some before ∧
      (after phys s p (pre ++ post)).mPlayers[p]? = some later ∧
      before.lastInputSequence ≤ later.lastInputSequence := by
  induction post using List.reverseRecOn with
  | nil =>
      obtain ⟨player, hplayer, -⟩ := after_latest phys hnone hpos pre hdelivers.of_append
      exact ⟨player, player, hplayer, by simpa using hplayer, UInt32.le_refl _⟩
  | append_singleton post c ih =>
      rw [← List.append_assoc] at hdelivers ⊢
      obtain ⟨before, later, hbefore, hlater, hle⟩ := ih hdelivers.of_append
      obtain ⟨player, hplayer, hlatest, -⟩ :=
        after_latest phys hnone hpos (pre ++ post) hdelivers.of_append
      obtain rfl : later = player := Option.some.inj (hlater.symm.trans hplayer)
      obtain ⟨player', ledger', hplayer', heffect⟩ :=
        call_effect phys hlater (hdelivers.1 c (by simp))
      have hacked := acked_effect heffect hlatest.acked
      refine ⟨before, player', hbefore, ?_, UInt32.le_trans hle hacked⟩
      rw [after_concat]
      exact hplayer'

/-- Two orders of one set of inputs leave the same input, if no tick comes after a delivery. -/
theorem stored_eq (hdistinct : (inputs.map (·.sequence)).Nodup) {one two : List (Call F)}
    (hone : Delivers p inputs one) (htwo : Delivers p inputs two)
    (hticks₁ : Unticked p one) (hticks₂ : Unticked p two)
    (hsame : ∀ i, i ∈ offered p one ↔ i ∈ offered p two) :
    ∃ a b, (after phys s p one).mPlayers[p]? = some a ∧
      (after phys s p two).mPlayers[p]? = some b ∧ a.input = b.input := by
  obtain ⟨a, ha, hlatest₁, hexact₁⟩ := after_latest phys hnone hpos one hone
  obtain ⟨b, hb, hlatest₂, hexact₂⟩ := after_latest phys hnone hpos two htwo
  refine ⟨a, b, ha, hb, ?_⟩
  rcases hlatest₁.source with ⟨hnil₁, ha⟩ | ⟨i, hi, -⟩
  · have hnil₂ : offered p two = [] := by
      apply List.eq_nil_iff_forall_not_mem.mpr
      intro i hi
      have := (hsame i).mpr hi
      simp [hnil₁] at this
    rcases hlatest₂.source with ⟨-, hb⟩ | ⟨i, hi, -⟩
    · rw [ha, hb]
    · simp [hnil₂] at hi
  · have hsome₁ : offered p one ≠ [] := List.ne_nil_of_mem hi
    have hsome₂ : offered p two ≠ [] := List.ne_nil_of_mem ((hsame i).mp hi)
    have ha := (hexact₁ hticks₁).resolve_left hsome₁
    have hb := (hexact₂ hticks₂).resolve_left hsome₂
    apply List.inj_on_of_nodup_map hdistinct (hone.2 _ ha) (htwo.2 _ hb)
    apply UInt32.le_antisymm
    · exact hlatest₂.bound _ ((hsame _).mp ha)
    · exact hlatest₁.bound _ ((hsame _).mpr hb)

end Run

/-- The entity of a player is in the snapshot. -/
theorem entity_mem (phys : Physics F) {s : Simulation F} {p : Nat} {player : SimPlayer F}
    (h : s.mPlayers[p]? = some player) :
    playerEntity phys player ∈ (s.buildSnapshot phys).entities := by
  apply List.mem_cons_of_mem
  exact List.mem_map.mpr ⟨(p, player), Std.ExtTreeMap.mem_toList_iff_getElem?_eq_some.mpr h, rfl⟩

/-- However the inputs of a set arrive, with ticks between them: the stored intent is that of the
newest one so far, acknowledgements in snapshots do not go back, and the order of arrival does not
show in what is stored. -/
theorem input_order (phys : Physics F) (s : Simulation F) (p : Nat) (hnone : s.mPlayers[p]? = none)
    (inputs : List (CharacterInput F)) (hpos : ∀ i ∈ inputs, i.sequence ≠ 0)
    (hdistinct : (inputs.map (·.sequence)).Nodup) :
    (∀ calls, Delivers p inputs calls → ∃ player,
      (after phys s p calls).mPlayers[p]? = some player ∧
        (offered p calls ≠ [] → ∃ i, (∀ j, Newest (offered p calls) j ↔ j = i) ∧
          intent player.input = intent i)) ∧
    (∀ pre post, Delivers p inputs (pre ++ post) → ∃ before later,
      (after phys s p pre).mPlayers[p]? = some before ∧
        (after phys s p (pre ++ post)).mPlayers[p]? = some later ∧
        playerEntity phys before ∈ ((after phys s p pre).buildSnapshot phys).entities ∧
        playerEntity phys later ∈ ((after phys s p (pre ++ post)).buildSnapshot phys).entities ∧
        (playerEntity phys before).lastInputSequence ≤
          (playerEntity phys later).lastInputSequence) ∧
    (∀ one two, Delivers p inputs one → Delivers p inputs two → Unticked p one → Unticked p two →
      (∀ i, i ∈ offered p one ↔ i ∈ offered p two) → ∃ a b,
        (after phys s p one).mPlayers[p]? = some a ∧
          (after phys s p two).mPlayers[p]? = some b ∧ a.input = b.input) := by
  refine ⟨?_, ?_, ?_⟩
  · intro calls hdelivers
    obtain ⟨player, hplayer, hlatest, -⟩ := after_latest phys hnone hpos calls hdelivers
    refine ⟨player, hplayer, fun hsome => ?_⟩
    obtain ⟨i, hi, heq⟩ := hlatest.newest hsome
    have hinj : ∀ a ∈ offered p calls, ∀ b ∈ offered p calls, a.sequence = b.sequence → a = b :=
      fun a ha b hb => List.inj_on_of_nodup_map hdistinct (hdelivers.2 a ha) (hdelivers.2 b hb)
    refine ⟨i, fun j => ⟨fun hj => hj.unique hinj hi, ?_⟩, heq⟩
    rintro rfl
    exact hi
  · intro pre post hdelivers
    obtain ⟨before, later, hbefore, hlater, hle⟩ := acked_mono phys hnone hpos pre post hdelivers
    exact ⟨before, later, hbefore, hlater, entity_mem phys hbefore, entity_mem phys hlater, hle⟩
  · intro one two hone htwo hticks₁ hticks₂ hsame
    exact stored_eq phys hnone hpos hdistinct hone htwo hticks₁ hticks₂ hsame

/-- The newest input comes first, older ones and a copy of one follow it, with a tick between. -/
def late : List (Call ℚ) :=
  [.setInput 1 (forward 3 true), .setInput 1 (forward 1 false), oneTick,
    .setInput 1 (forward 2 false), .setInput 1 (forward 1 false)]

theorem input_order_late :
    ∃ player, (after .level blank 1 late).mPlayers[1]? = some player ∧
      ∃ i, (∀ j, Newest (offered 1 late) j ↔ j = i) ∧ intent player.input = intent i := by
  obtain ⟨player, hplayer, hnewest⟩ := (input_order .level blank 1 (by decide +kernel)
    [forward 1 false, forward 2 false, forward 3 true] (by decide +kernel)
    (by decide +kernel)).1 late (by decide +kernel)
  exact ⟨player, hplayer, hnewest (by decide +kernel)⟩

end UntitledGame.Sim.InputOrder
