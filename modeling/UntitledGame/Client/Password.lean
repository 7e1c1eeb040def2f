import UntitledGame.Client.UdpTurn

/-!
# The password of the client

`login` puts the password into the client, for the request that `poll` sends once the
connection to the auth server is there; `poll` and `disconnect` clear it. A login that
gets no further than `fail` clears nothing, so the password stays in a client that has
failed. Nothing else in the client touches it.
-/

namespace UntitledGame.Client.Password

open Net NetClient UdpTurn

/-- A call on the client, or `disconnect` itself. -/
inductive Act where
  | call (c : UdpTurn.Call)
  | disconnect
  deriving DecidableEq, Repr

def act (c : NetClient) : Act → NetClient
  | .call a => UdpTurn.call c a
  | .disconnect => c.disconnect

def run (mFakeLatency mFakeLoss : ℚ) (acts : List Act) : NetClient :=
  Lib.Runs.run act (NetClient.init mFakeLatency mFakeLoss) acts

/-- The client holds no password but while it connects to the auth server. -/
def Forgotten (c : NetClient) : Prop := c.mState ≠ .connectingAuth → c.mPassword = []

/-- The connection to the auth server does not fail while the client holds a password: neither at
the login, nor when the poll finds out how it went. -/
def Reached (c : NetClient) : Act → Prop
  | .call (.login _ _ password os) => password = [] ∨ os.resolve.isSome = true ∧ os.connect = true
  | .call (.poll _ os) =>
      c.mState = .connectingAuth → c.mPassword = [] ∨ os.writable = false ∨ os.connectResult = true
  | .call (.sendInput _ _) => True
  | .call .logout => True
  | .disconnect => True

section Frames

theorem password_of_transmits {c c' : NetClient} (h : Transmits c c') :
    c'.mPassword = c.mPassword := by
  obtain ⟨_, _, rfl⟩ := h
  rfl

theorem password_of_receives {c c' : NetClient} (h : Receives c c') :
    c'.mPassword = c.mPassword := by
  obtain ⟨_, _, _, _, _, _, rfl⟩ := h
  rfl

theorem sendUdpHello_password (c : NetClient) : c.sendUdpHello.mPassword = c.mPassword :=
  password_of_transmits (transmits_sendUdpHello c)

theorem pollConnectingWorld_password (c : NetClient) (os : Os) :
    (c.pollConnectingWorld os).mPassword = c.mPassword := by
  simp only [pollConnectingWorld]
  split
  · rfl
  · split
    · rfl
    · rfl

theorem handleLoginResponse_password (c : NetClient) (os : Os) (payload : Bytes) :
    (c.handleLoginResponse os payload).mPassword = c.mPassword := by
  simp only [handleLoginResponse]
  split
  · rfl
  · split
    · rfl
    · split
      · rfl
      · split
        · rfl
        · rfl

theorem handleAuth_password (c : NetClient) (os : Os) (messages : List Message) :
    (c.handleAuth os messages).mPassword = c.mPassword := by
  induction messages with
  | nil => rfl
  | cons m rest ih =>
      rw [handleAuth]
      split
      · exact ih
      · exact handleLoginResponse_password c os m.payload

theorem pumpAuth_password (c : NetClient) (os : Os) :
    (c.pumpAuth os).mPassword = c.mPassword := by
  simp only [pumpAuth]
  split
  · rfl
  · split
    · rfl
    · exact handleAuth_password _ os _

theorem handleJoinResponse_password (c : NetClient) (now : ℚ) (udpOpen : Bool × Option Address)
    (payload : Bytes) :
    (c.handleJoinResponse now udpOpen payload).mPassword = c.mPassword := by
  simp only [handleJoinResponse]
  split
  · rfl
  · split
    · rfl
    · split
      · rfl
      · split
        · rfl
        · exact sendUdpHello_password _

theorem handleWorld_password (c : NetClient) (now : ℚ) (udpOpens : List (Bool × Option Address))
    (messages : List Message) : (c.handleWorld now udpOpens messages).mPassword = c.mPassword := by
  induction messages generalizing c udpOpens with
  | nil => rfl
  | cons m rest ih =>
      simp only [handleWorld]
      have hjoin := handleJoinResponse_password c now (udpOpens.headD (false, none)) m.payload
      split
      · split
        · exact hjoin
        · exact (ih _ _).trans hjoin
      · rfl
      · exact ih c udpOpens

theorem pumpUdp_password (c : NetClient) (now : ℚ) (datagrams : List (Address × Bytes)) :
    (c.pumpUdp now datagrams).mPassword = c.mPassword := by
  have hrest : ∀ d : NetClient,
      ((d.receiveDatagrams now datagrams).flushDelayed now).mPassword = d.mPassword := by
    intro d
    rw [flushDelayed, password_of_receives (receives_flushIncoming _ now),
      password_of_transmits (transmits_flushOutgoing _ now),
      password_of_receives (receives_receiveDatagrams d now datagrams)]
  simp only [pumpUdp]
  split
  · exact (hrest _).trans (sendUdpHello_password c)
  · exact hrest c

theorem pumpWorld_password (c : NetClient) (now : ℚ) (os : Os) :
    (c.pumpWorld now os).mPassword = c.mPassword := by
  simp only [pumpWorld]
  split
  · rfl
  · split
    · rfl
    · have hmessages := handleWorld_password
      split
      · exact hmessages _ now _ _
      · exact (pumpUdp_password _ now _).trans (hmessages _ now _ _)

/-- A poll touches the password only while the client connects to the auth server. -/
theorem poll_password {c : NetClient} (h : c.mState ≠ .connectingAuth) (now : ℚ) (os : Os) :
    (c.poll now os).mPassword = c.mPassword := by
  simp only [poll]
  split
  · rename_i hstate
    exact absurd hstate h
  · exact pumpAuth_password _ os
  · exact pollConnectingWorld_password _ os
  · exact pumpWorld_password _ now os
  · exact pumpWorld_password _ now os
  · rfl
  · rfl

end Frames

section Steps

theorem forgotten_login_iff (c : NetClient) (host : String) (username password : Bytes) (os : Os) :
    Forgotten (c.login host username password os) ↔
      password = [] ∨ os.resolve.isSome = true ∧ os.connect = true := by
  simp only [login]
  cases hresolve : os.resolve with
  | none => simp [Forgotten, fail]
  | some _ =>
      cases hconnect : os.connect with
      | false => simp [Forgotten, fail]
      | true => simp [Forgotten]

theorem forgotten_pollConnectingAuth_iff {c : NetClient} (h : c.mState = .connectingAuth)
    (os : Os) :
    Forgotten (c.pollConnectingAuth os) ↔
      c.mPassword = [] ∨ os.writable = false ∨ os.connectResult = true := by
  simp only [pollConnectingAuth]
  cases hwritable : os.writable with
  | false => simp [Forgotten, h]
  | true =>
      cases hresult : os.connectResult with
      | false => simp [Forgotten, fail]
      | true => simp [Forgotten]

theorem forgotten_of_disconnect (c : NetClient) : Forgotten c.disconnect := fun _ => rfl

/-- A client that holds no password where it may not holds none after the next call either,
exactly when the connection does not fail. -/
theorem forgotten_act_iff {c : NetClient} (h : Forgotten c) (a : Act) :
    Forgotten (act c a) ↔ Reached c a := by
  cases a with
  | disconnect => exact iff_of_true (forgotten_of_disconnect c) trivial
  | call a =>
      cases a with
      | login host username password os => exact forgotten_login_iff c host username password os
      | poll now os =>
          by_cases hstate : c.mState = .connectingAuth
          · have hpoll : c.poll now os =
                pollConnectingAuth { c with mLastPollTime := now } os := by
              simp only [poll, hstate]
            have hstamp : ({ c with mLastPollTime := now } : NetClient).mState = .connectingAuth :=
              hstate
            have hiff := forgotten_pollConnectingAuth_iff hstamp os
            rw [← hpoll] at hiff
            exact hiff.trans ⟨fun hheld _ => hheld, fun hheld => hheld hstate⟩
          · refine iff_of_true (fun _ => ?_) (fun hconnecting => absurd hconnecting hstate)
            exact (poll_password hstate now os).trans (h hstate)
      | sendInput input dropped =>
          obtain ⟨_, _, heq⟩ := transmits_sendInput c input dropped
          have hsame : Forgotten (c.sendInput input dropped) := by
            rw [heq]
            exact h
          exact iff_of_true hsame trivial
      | logout => exact iff_of_true (fun _ => rfl) trivial

end Steps

/-- In every state of a run the password is forgotten unless the client connects to the auth
server, exactly when no connection to it fails. -/
theorem forgotten_iff_reached (mFakeLatency mFakeLoss : ℚ) (acts : List Act) :
    (∀ pre, pre <+: acts → Forgotten (run mFakeLatency mFakeLoss pre)) ↔
      Lib.Runs.Along act Reached (NetClient.init mFakeLatency mFakeLoss) acts := by
  have hinit : Forgotten (NetClient.init mFakeLatency mFakeLoss) := fun _ => rfl
  have hstep : ∀ c a, Forgotten c → Reached c a → Forgotten (act c a) :=
    fun c a h => (forgotten_act_iff h a).mpr
  have hback : ∀ c a, Forgotten c → Forgotten (act c a) → Reached c a :=
    fun c a h => (forgotten_act_iff h a).mp
  exact Lib.Runs.always_iff_along hinit hstep hback (fun _ h => h) acts

/-- The host does not resolve, and the password stays. -/
theorem failed_login_keeps_password :
    let c := run 0 0 [.call (.login "auth" [97] [115, 51] Os.quiet)]
    c.mState = .failed ∧ c.mPassword = [115, 51] ∧ ¬ Forgotten c := by
  refine ⟨by decide, by decide, fun h => ?_⟩
  exact absurd (h (by decide)) (by decide)

end UntitledGame.Client.Password
