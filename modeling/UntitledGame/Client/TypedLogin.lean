import UntitledGame.Client.Unseen
import UntitledGame.Client.Voice
import UntitledGame.Server.Codecs

/-!
# What is typed is what is sent

The login form takes printable characters only, and at most `kMaxLength` of them. So a
login request carries the two fields as they were when the form was submitted, and the
auth server reads exactly these: nothing is cut off, and nothing is empty.
-/

namespace UntitledGame.Client

open Net (Bytes)
open Ui (Font InputState Widgets)

/-- What a field of the login form holds. -/
def Typed (value : Bytes) : Prop :=
  value.length ≤ kMaxLength ∧ ∀ c ∈ value, 0x20 ≤ c ∧ c ≤ 0x7E

theorem typed_nil : Typed [] := ⟨Nat.zero_le _, fun _ hc => absurd hc List.not_mem_nil⟩

variable {F : Type*} [Scalar F]

section Fields

open Ui.Widgets (typeCharacter edited)

theorem Typed.typeCharacter {value : Bytes} (h : Typed value) (codepoint : UInt32) :
    Typed (typeCharacter kMaxLength value codepoint) := by
  rw [Ui.Widgets.typeCharacter]
  split
  · rename_i htaken
    simp only [Bool.and_eq_true, decide_eq_true_eq] at htaken
    obtain ⟨⟨hlow, hhigh⟩, hroom⟩ := htaken
    refine ⟨by rw [List.length_append]; exact hroom, fun c hc => ?_⟩
    cases List.mem_append.mp hc with
    | inl hold => exact h.2 c hold
    | inr hnew =>
        obtain rfl := List.mem_singleton.mp hnew
        have hlow' := UInt32.le_iff_toNat_le.mp hlow
        have hhigh' := UInt32.le_iff_toNat_le.mp hhigh
        have hsmall : codepoint.toUInt8.toNat = codepoint.toNat := by
          rw [UInt32.toNat_toUInt8]
          exact Nat.mod_eq_of_lt (lt_of_le_of_lt hhigh' (by decide))
        exact ⟨UInt8.le_iff_toNat_le.mpr (hsmall ▸ hlow'),
          UInt8.le_iff_toNat_le.mpr (hsmall ▸ hhigh')⟩
  · exact h

omit [Scalar F] in
theorem Typed.edited {value : Bytes} (h : Typed value) (input : InputState F) :
    Typed (edited input kMaxLength value) := by
  have htyped : ∀ characters : List UInt32, ∀ v : Bytes, Typed v →
      Typed (characters.foldl (Ui.Widgets.typeCharacter kMaxLength) v) := by
    intro characters
    induction characters with
    | nil => exact fun _ hv => hv
    | cons c characters ih => exact fun v hv => ih _ (hv.typeCharacter c)
  simp only [Ui.Widgets.edited]
  split
  · obtain ⟨hlength, hprintable⟩ := htyped input.characters value h
    refine ⟨?_, fun c hc => hprintable c (List.dropLast_subset _ hc)⟩
    rw [List.length_dropLast]
    omega
  · exact htyped input.characters value h

omit [Scalar F] in
theorem Typed.fieldValue {value : Bytes} (h : Typed value) (ui : Widgets F) (id : Nat) :
    Typed (fieldValue ui id kMaxLength value) := by
  rw [Client.fieldValue]
  split
  · exact h.edited ui.mInput
  · exact h

/-- Both fields of the form. -/
def LoginScreen.AllTyped (s : LoginScreen) : Prop := Typed s.mUsername ∧ Typed s.mPassword

theorem LoginScreen.AllTyped.draw {s : LoginScreen} (h : s.AllTyped) (ui : Widgets F)
    (renderer : Ui.Canvas F) (state : AppState) : (s.draw ui renderer state).1.AllTyped := by
  rw [draw_eq]
  exact ⟨h.1.fieldValue _ _, h.2.fieldValue _ _⟩

end Fields

section Requests

open NetClient Session

/-- What a client that connects to the auth server will send. -/
def credentials (c : NetClient) : State × Bytes × Bytes := (c.mState, c.mUsername, c.mPassword)

theorem handleAuth_idle {c : NetClient} (h : c.mState ≠ .connectingAuth) (os : Os)
    (messages : List Net.Message) : (c.handleAuth os messages).mState ≠ .connectingAuth := by
  induction messages with
  | nil => exact h
  | cons m messages ih =>
      simp only [handleAuth]
      split
      · exact ih
      · simp only [handleLoginResponse]
        split
        · intro h
          cases h
        · split
          · intro h
            cases h
          · split
            · intro h
              cases h
            · split
              · intro h
                cases h
              · intro h
                cases h

theorem handleWorld_idle {c : NetClient} (h : c.mState ≠ .connectingAuth) (now : ℚ)
    (udpOpens : List (Bool × Option Address)) (messages : List Net.Message) :
    (c.handleWorld now udpOpens messages).mState ≠ .connectingAuth := by
  induction messages generalizing c udpOpens with
  | nil => exact h
  | cons m messages ih =>
      simp only [handleWorld]
      have hjoin : (c.handleJoinResponse now (udpOpens.headD (false, none)) m.payload).mState ≠
          .connectingAuth := by
        rcases handleJoinResponse_state c now (udpOpens.headD (false, none)) m.payload with hs | hs
        · intro h
          rw [hs] at h
          cases h
        · intro h
          rw [hs] at h
          cases h
      split
      · split
        · exact hjoin
        · exact ih hjoin _
      · intro h
        cases h
      · exact ih h udpOpens

theorem pumpWorld_idle {c : NetClient} (h : c.mState ≠ .connectingAuth) (now : ℚ) (os : Os) :
    (c.pumpWorld now os).mState ≠ .connectingAuth := by
  simp only [pumpWorld]
  split
  · intro h
    cases h
  · split
    · intro h
      cases h
    · have hset : ∀ world, ({ c with mWorld := world } : NetClient).mState ≠ .connectingAuth :=
        fun _ => h
      split
      · exact handleWorld_idle (hset _) now _ _
      · rw [mState_of_status (status_pumpUdp _ now os.datagrams)]
        exact handleWorld_idle (hset _) now _ _

theorem pumpAuth_idle {c : NetClient} (h : c.mState ≠ .connectingAuth) (os : Os) :
    (c.pumpAuth os).mState ≠ .connectingAuth := by
  simp only [pumpAuth]
  split
  · intro h
    cases h
  · split
    · intro h
      cases h
    · have hset : ∀ auth, ({ c with mAuth := auth } : NetClient).mState ≠ .connectingAuth :=
        fun _ => h
      exact handleAuth_idle (hset _) os _

theorem pollConnectingWorld_idle {c : NetClient} (h : c.mState ≠ .connectingAuth) (os : Os) :
    (c.pollConnectingWorld os).mState ≠ .connectingAuth := by
  simp only [pollConnectingWorld]
  split
  · exact h
  · split
    · intro h
      cases h
    · intro h
      cases h

theorem dispatch_credentials {c : NetClient} {now : ℚ} {os : Os}
    (h : (dispatch now os c).mState = .connectingAuth) :
    credentials (dispatch now os c) = credentials c := by
  by_cases hstate : c.mState = .connectingAuth
  · revert h
    simp only [dispatch, hstate, pollConnectingAuth]
    split
    · exact fun _ => rfl
    · split
      · intro h
        cases h
      · intro h
        cases h
  · revert h
    simp only [dispatch]
    split
    · contradiction
    · exact fun h => absurd h (pumpAuth_idle hstate os)
    · exact fun h => absurd h (pollConnectingWorld_idle hstate os)
    · exact fun h => absurd h (pumpWorld_idle hstate now os)
    · exact fun h => absurd h (pumpWorld_idle hstate now os)
    · exact fun _ => rfl
    · exact fun _ => rfl

/-- A poll does not start to connect, and while it goes on, the request stays. -/
theorem poll_credentials {c : NetClient} {now : ℚ} {os : Os}
    (h : (c.poll now os).mState = .connectingAuth) : credentials (c.poll now os) = credentials c :=
  dispatch_credentials (c := { c with mLastPollTime := now }) h

theorem login_credentials {c : NetClient} {host : String} {username password : Bytes} {os : Os}
    (h : (c.login host username password os).mState = .connectingAuth) :
    credentials (c.login host username password os) = (.connectingAuth, username, password) := by
  revert h
  simp only [login]
  split
  · intro h
    cases h
  · split
    · intro h
      cases h
    · exact fun _ => rfl

theorem update_credentials (host : Host F) (a : Application F) (f : Frame F) :
    credentials (a.update host f).mNet =
      credentials (a.mNet.poll (a.mElapsedSeconds + f.deltaSeconds) f.os) := by
  have hticked : ∀ (intent : Prediction.Intent F) (dropped : List Bool) (b : Application F),
      credentials (b.tickLoop host intent Application.kMaxTicks dropped).mNet =
        credentials b.mNet := by
    intro intent dropped b
    apply Application.tickLoop_preserves (P := fun b' => credentials b'.mNet = credentials b.mNet)
      host intent _ dropped b rfl
    intro b' drop hb' _
    simp only [Application.tick]
    split
    · exact hb'
    · obtain ⟨_, _, heq⟩ := transmits_sendInput b'.mNet
        (Application.inputBits host (b'.mPrediction.step host.phys intent).2) drop
      rw [heq]
      exact hb'
  have hreplicated : ∀ b : Application F, (b.applyReplication host).mNet = b.mNet :=
    fun b => congrArg Prod.fst (Voice.clockwork_applyReplication host b)
  have hfollowed : ∀ b : Application F, b.transition.mNet = b.mNet :=
    fun b => congrArg Prod.fst (Voice.clockwork_transition b)
  simp only [Application.update, Application.advance, hreplicated, hticked, hfollowed]

theorem transition_form {a : Application F} (h : a.mLoginScreen.AllTyped) :
    a.transition.mLoginScreen.AllTyped := by
  simp only [Application.transition]
  split
  · split
    · exact h
    · split
      · exact ⟨h.1, typed_nil⟩
      · exact h
  · split
    · exact ⟨h.1, typed_nil⟩
    · exact h

theorem update_form (host : Host F) {a : Application F} (h : a.mLoginScreen.AllTyped)
    (f : Frame F) : (a.update host f).mLoginScreen.AllTyped := by
  have hticked : ∀ (intent : Prediction.Intent F) (dropped : List Bool) (b : Application F),
      (b.tickLoop host intent Application.kMaxTicks dropped).mLoginScreen = b.mLoginScreen := by
    intro intent dropped b
    apply Application.tickLoop_preserves (P := fun b' => b'.mLoginScreen = b.mLoginScreen)
      host intent _ dropped b rfl
    intro b' drop hb' _
    simp only [Application.tick]
    split
    · exact hb'
    · exact hb'
  have hpredicted : ∀ (b : Application F) (e : Net.EntityState F),
      (b.predictOwn host e).mLoginScreen = b.mLoginScreen := by
    intro b e
    simp only [Application.predictOwn]
    split
    · rfl
    · split
      · rfl
      · rfl
  have hreplicated : ∀ b : Application F,
      (b.applyReplication host).mLoginScreen = b.mLoginScreen := by
    intro b
    simp only [Application.applyReplication]
    split
    · rfl
    · apply List.foldlRecOn b.mNet.mEntities.toList (Application.replicateEntity host)
        (motive := fun s => s.1.mLoginScreen = b.mLoginScreen) (b := (b, ∅)) rfl
      intro s hs entry _
      refine Eq.trans ?_ hs
      simp only [Application.replicateEntity]
      split
      · split
        · exact hpredicted s.1 _
        · rfl
      · rfl
  simp only [Application.update, Application.advance, hreplicated, hticked]
  exact transition_form h

end Requests

namespace Shell

variable (host : Platform F)

/-- The fields of a form that is submitted in this event, if both are filled in. -/
def submitted (s : Shell F) : WindowEvent F → List (Bytes × Bytes)
  | .frame f =>
      let t := s.update host f
      let form := t.form f
      if s.shouldClose = false ∧ t.app.mState = .login ∧ form.2 = .submit ∧
          form.1.mUsername ≠ [] ∧ form.1.mPassword ≠ [] then
        [(form.1.mUsername, form.1.mPassword)]
      else []
  | _ => []

/-- The fields hold what can be typed, and a client that connects to the auth server has the
fields of the form that was submitted last. -/
structure Faithful (s : Shell F) (log : List (Bytes × Bytes)) : Prop where
  form : s.app.mLoginScreen.AllTyped
  request : s.app.mNet.mState = .connectingAuth →
    log.getLast? = some (s.app.mNet.mUsername, s.app.mNet.mPassword)
  typed : ∀ entry ∈ log, entry.1 ≠ [] ∧ entry.2 ≠ [] ∧ Typed entry.1 ∧ Typed entry.2

omit [Scalar F] in
theorem Faithful.of_app {s t : Shell F} {log : List (Bytes × Bytes)} (h : s.Faithful log)
    (happ : t.app = s.app) : t.Faithful log :=
  ⟨happ ▸ h.form, happ ▸ h.request, h.typed⟩

theorem Faithful.update {s : Shell F} {log : List (Bytes × Bytes)} (h : s.Faithful log)
    (f : Turn F) : (s.update host f).Faithful log := by
  refine ⟨?_, ?_, h.typed⟩
  · rw [update_app]
    exact update_form host.toHost h.form _
  · intro hstate
    have hsame := update_credentials host.toHost s.app (s.inner host f)
    rw [← update_app] at hsame
    have hpolled : (s.app.mNet.poll (s.app.mElapsedSeconds + f.deltaSeconds) f.os).mState =
        .connectingAuth := (congrArg Prod.fst hsame).symm.trans hstate
    have hkept := hsame.trans (poll_credentials hpolled)
    have hbefore : s.app.mNet.mState = .connectingAuth :=
      (congrArg Prod.fst hkept).symm.trans hstate
    have hfields : ((s.update host f).app.mNet.mUsername, (s.update host f).app.mNet.mPassword) =
        (s.app.mNet.mUsername, s.app.mNet.mPassword) := congrArg Prod.snd hkept
    rw [hfields]
    exact h.request hbefore

omit [Scalar F] in
/-- A screen that asks for no login. -/
theorem Faithful.of_net {s t : Shell F} {log : List (Bytes × Bytes)} (h : s.Faithful log)
    (hform : t.app.mLoginScreen.AllTyped)
    (hnet : t.app.mNet = s.app.mNet ∨ t.app.mNet.mState = .idle) : t.Faithful log := by
  refine ⟨hform, fun hstate => ?_, h.typed⟩
  cases hnet with
  | inl hsame =>
      rw [hsame] at hstate ⊢
      exact h.request hstate
  | inr hidle =>
      rw [hidle] at hstate
      cases hstate

omit [Scalar F] in
theorem Faithful.beginLogin {s : Shell F} {log : List (Bytes × Bytes)} (h : s.Faithful log)
    (os : NetClient.Os) :
    let username := s.app.mLoginScreen.mUsername
    let password := s.app.mLoginScreen.mPassword
    (s.beginLogin host os).Faithful
      (log ++ if username ≠ [] ∧ password ≠ [] then [(username, password)] else []) := by
  intro username password
  by_cases hempty : username = [] ∨ password = []
  · have hnone : ¬ (username ≠ [] ∧ password ≠ []) := by tauto
    rw [if_neg hnone, List.append_nil, Shell.beginLogin, if_pos hempty]
    exact h.of_net h.form (Or.inl rfl)
  · have hfilled : username ≠ [] ∧ password ≠ [] := not_or.mp hempty
    rw [if_pos hfilled, Shell.beginLogin, if_neg hempty]
    refine ⟨h.form, fun hstate => ?_, fun entry hentry => ?_⟩
    · have hsent := congrArg Prod.snd (login_credentials hstate)
      rw [List.getLast?_concat]
      exact congrArg some hsent.symm
    · cases List.mem_append.mp hentry with
      | inl hold => exact h.typed entry hold
      | inr hnew =>
          obtain rfl := List.mem_singleton.mp hnew
          exact ⟨hfilled.1, hfilled.2, h.form.1, h.form.2⟩

/-- The form after a frame, with what it asks for done. -/
theorem Faithful.drawLogin {s : Shell F} {log : List (Bytes × Bytes)} (h : s.Faithful log)
    (f : Turn F) :
    let form := s.form f
    (s.drawLogin host f).1.Faithful (log ++
      if form.2 = .submit ∧ form.1.mUsername ≠ [] ∧ form.1.mPassword ≠ [] then
        [(form.1.mUsername, form.1.mPassword)]
      else []) := by
  intro form
  have htyped : (s.withForm form.1).Faithful log :=
    h.of_net (h.form.draw (s.begun f) s.canvas s.app.mState) (Or.inl rfl)
  change (loginAction host (s.withForm form.1) f.loginOs form.2).Faithful _
  cases haction : form.2 with
  | submit =>
      have hlogin := htyped.beginLogin host f.loginOs
      simp only [true_and]
      exact hlogin
  | quit =>
      simp only [reduceCtorEq, false_and, if_false, List.append_nil]
      exact htyped.of_net htyped.form (Or.inl rfl)
  | none =>
      simp only [reduceCtorEq, false_and, if_false, List.append_nil]
      exact htyped

theorem Faithful.drawMenu {s : Shell F} {log : List (Bytes × Bytes)} (h : s.Faithful log)
    (f : Turn F) : (s.drawMenu f).1.Faithful log := by
  simp only [Shell.drawMenu]
  split
  · exact h.of_net h.form (Or.inl rfl)
  · dsimp only
    cases (MenuScreen.draw (s.begun f) s.canvas s.app.mUsername).2 with
    | logout => exact h.of_net ⟨h.form.1, typed_nil⟩ (Or.inr rfl)
    | quit => exact h.of_net h.form (Or.inl rfl)
    | resume => exact h
    | none => exact h

theorem Faithful.drawUi {s : Shell F} {log : List (Bytes × Bytes)} (h : s.Faithful log)
    (f : Turn F) :
    let form := s.form f
    (s.drawUi host f).Faithful (log ++
      if s.app.mState = .login ∧ form.2 = .submit ∧ form.1.mUsername ≠ [] ∧ form.1.mPassword ≠ []
      then [(form.1.mUsername, form.1.mPassword)]
      else []) := by
  intro form
  have hscreen : (s.drawLogin host f).1.Faithful (log ++
      if form.2 = .submit ∧ form.1.mUsername ≠ [] ∧ form.1.mPassword ≠ [] then
        [(form.1.mUsername, form.1.mPassword)]
      else []) := h.drawLogin host f
  refine Faithful.of_app (s := (s.drawScreen host f).1) ?_ rfl
  rw [drawScreen]
  cases hstate : s.app.mState with
  | login => simpa only [true_and] using hscreen
  | connecting =>
      have hidle : ¬ (form.2 = .submit ∧ form.1.mUsername ≠ [] ∧ form.1.mPassword ≠ []) :=
        fun hsubmit => s.form_snd_ne f hstate hsubmit.1
      rw [if_neg hidle] at hscreen
      simpa only [reduceCtorEq, false_and, if_false] using hscreen
  | inGame =>
      simp only [reduceCtorEq, false_and, if_false, List.append_nil]
      split
      · exact h.of_net h.form (Or.inl rfl)
      · exact h
  | menu =>
      simp only [reduceCtorEq, false_and, if_false, List.append_nil]
      exact h.drawMenu f

theorem Faithful.step {s : Shell F} {log : List (Bytes × Bytes)} (h : s.Faithful log)
    (e : WindowEvent F) : (s.step host e).Faithful (log ++ s.submitted host e) := by
  cases e with
  | frame f =>
      simp only [Shell.step, submitted]
      split
      · rename_i hclosed
        simpa only [hclosed, reduceCtorEq, false_and, if_false, List.append_nil] using h
      · rename_i hopen
        have hfalse : s.shouldClose = false := by simpa using hopen
        simpa only [hfalse, true_and] using (h.update host f).drawUi host f
  | character codepoint => exact (List.append_nil log).symm ▸ h.of_app rfl
  | key key action =>
      exact (List.append_nil log).symm ▸ h.of_app (step_app host s (.key key action))
  | mouseButton left action =>
      exact (List.append_nil log).symm ▸ h.of_app (step_app host s (.mouseButton left action))
  | resize width height =>
      exact (List.append_nil log).symm ▸ h.of_app (step_app host s (.resize width height))
  | close => exact (List.append_nil log).symm ▸ h.of_app rfl

/-- In every run, a client that connects to the auth server was asked to by the form: the request
that it will send is read by the server as exactly the two fields that were submitted last, both
filled in, of at most 32 printable characters each. -/
theorem login_as_typed (mFakeLatency mFakeLoss : ℚ) (mFont : Font F) (width height : Int)
    (events : List (WindowEvent F)) :
    let s := run host mFakeLatency mFakeLoss mFont width height events
    let log := (Lib.Runs.run (Lib.Runs.record (step host) (submitted host))
      (init mFakeLatency mFakeLoss mFont width height, []) events).2
    s.app.mNet.mState = .connectingAuth → ∃ username password,
      log.getLast? = some (username, password) ∧ username ≠ [] ∧ password ≠ [] ∧
        Typed username ∧ Typed password ∧
          (Server.AuthServer.readCredentials (Net.ByteReader.start
            (NetClient.loginRequest s.app.mNet.mUsername s.app.mNet.mPassword))).1 =
              (Net.kProtocolVersion, username, password, false) := by
  intro s log hconnecting
  have hstart : (init mFakeLatency mFakeLoss mFont width height).Faithful [] := by
    have happ : (init mFakeLatency mFakeLoss mFont width height).app =
        Application.init mFakeLatency mFakeLoss := by
      simp only [init, resize]
      split <;> rfl
    refine ⟨?_, ?_, fun _ hentry => absurd hentry List.not_mem_nil⟩
    · rw [happ]
      exact ⟨typed_nil, typed_nil⟩
    · rw [happ]
      intro h
      cases h
  let recorded := Lib.Runs.run (Lib.Runs.record (step host) (submitted host))
    (init mFakeLatency mFakeLoss mFont width height, []) events
  have hfaithful : recorded.1.Faithful recorded.2 :=
    Lib.Runs.run_record_preserves (fun t entries e ht => ht.step host e) hstart events
  simp only [recorded] at hfaithful
  rw [Lib.Runs.run_record_fst] at hfaithful
  have hlast := hfaithful.request hconnecting
  obtain ⟨husername, hpassword, htyped, htyped'⟩ := hfaithful.typed _ (List.mem_of_getLast? hlast)
  refine ⟨_, _, hlast, husername, hpassword, htyped, htyped', ?_⟩
  have hshort : ∀ value, Typed value → Server.Short value := by
    intro value hvalue
    exact hvalue.1.trans (by decide)
  exact Server.Codecs.readCredentials_loginRequest (hshort _ htyped) (hshort _ htyped')

/-- A frame in which the auth server can be reached. -/
def reachableTurn : Turn ℚ :=
  { quietTurn with loginOs := { NetClient.Os.quiet with resolve := some ⟨0, 0⟩, connect := true } }

/-- A username, Tab, a password, Enter. -/
def typedIn : List (WindowEvent ℚ) :=
  [.frame quietTurn, .character 97, .key .tab .press, .frame quietTurn, .character 98,
    .key .enter .press, .frame reachableTurn]

theorem login_as_typed_entered :
    let s := run levelPlatform 0 0 .blank 640 480 typedIn
    let log := (Lib.Runs.run (Lib.Runs.record (step levelPlatform) (submitted levelPlatform))
      (init 0 0 .blank 640 480, []) typedIn).2
    ∃ username password, log.getLast? = some (username, password) ∧ username ≠ [] ∧
      password ≠ [] ∧ Typed username ∧ Typed password ∧
        (Server.AuthServer.readCredentials (Net.ByteReader.start
          (NetClient.loginRequest s.app.mNet.mUsername s.app.mNet.mPassword))).1 =
            (Net.kProtocolVersion, username, password, false) :=
  login_as_typed levelPlatform 0 0 .blank 640 480 typedIn (by decide +kernel)

end Shell

end UntitledGame.Client
