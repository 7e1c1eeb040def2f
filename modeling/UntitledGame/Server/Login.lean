import UntitledGame.Server.Chronicle
import UntitledGame.Server.DbServer
import Mathlib.Data.List.TakeWhile

/-!
# A login that succeeds is sound

The credentials, the account and the token of a login pass through two callbacks.
`login_sound` takes a successful response back through both to the message, to the
account that the name in it resolved to, and to the row that the token has.
-/

namespace UntitledGame.Server.Login

open Net AuthServer

variable {setup : AuthSetup} {lower : Bytes → Bytes} {arrivals : List (Nat × Message)}
  {log : List Handling}

/-- The message with this number is a login with this protocol version and these credentials, on
this connection. -/
def Requested (arrivals : List (Nat × Message)) (k id : Nat) (username password : Bytes) : Prop :=
  ∃ m, arrivals[k]? = some (id, m) ∧ AuthMessage.ofU16 m.type = some .loginRequest ∧
    (readCredentials (.start m.payload)).1 = (kProtocolVersion, username, password, false)

/-- For the message with this number, the database resolved the name to the account. -/
def Resolved (lower : Bytes → Bytes) (log : List Handling) (k : Nat) (username : Bytes)
    (a : Account) : Prop :=
  ∃ entry ∈ log, entry.side = .auth ∧ entry.request.origin = k ∧
    entry.request.body = .accountLookup username ∧
    entry.before.findAccount lower username entry.outcome.first = some (some a)

/-- For the message with this number, the database confirmed a session, and its row is there. -/
def Stored (lower : Bytes → Bytes) (log : List Handling) (k accountId : Nat) (token : Bytes) : Prop :=
  ∃ entry ∈ log, entry.side = .auth ∧ entry.request.origin = k ∧
    (∃ ttlSeconds, entry.request.body = .sessionCreate accountId token ttlSeconds) ∧
    (entry.result lower).2 = .sessionCreate .ok ∧
    ∃ row ∈ (entry.result lower).1.sessions, row.token = token ∧ row.accountId = accountId

/-- What a successful response on a connection must rest on. -/
def Authenticated (setup : AuthSetup) (lower : Bytes → Bytes) (arrivals : List (Nat × Message))
    (log : List Handling) (id accountId : Nat) (token : Bytes) (level : UInt8) : Prop :=
  ∃ k username password a,
    Requested arrivals k id username password ∧
      Resolved lower log k username a ∧ a.id = accountId ∧ Database.levelOf a = level ∧
      setup.verifyPassword a.passwordHash password = true ∧
      Stored lower log k accountId token

section Tokens

theorem hexDigit_ne_zero {n : UInt8} (h : n.toNat < 16) : hexDigit n ≠ 0 := by
  intro hzero
  rw [hexDigit] at hzero
  split at hzero
  · have hnat := congrArg UInt8.toNat hzero
    simp only [UInt8.toNat_add, UInt8.reduceToNat] at hnat
    omega
  · have hnat := congrArg UInt8.toNat hzero
    simp only [UInt8.toNat_add, UInt8.reduceToNat] at hnat
    omega

/-- A token survives the way to the database as a C string. -/
theorem cString_generateToken (raw : Bytes) :
    Database.cString (generateToken raw) = generateToken raw := by
  apply List.takeWhile_eq_self_iff.mpr
  intro digit hdigit
  obtain ⟨byte, -, hdigit⟩ := List.mem_flatMap.mp hdigit
  have hbyte := byte.toNat_lt
  have hhigh : (byte >>> 4).toNat < 16 := by
    rw [UInt8.toNat_shiftRight, Nat.shiftRight_eq_div_pow]
    exact Nat.div_lt_of_lt_mul hbyte
  have hlow : (byte &&& 0x0F).toNat < 16 := by
    rw [UInt8.toNat_and]
    exact Nat.lt_succ_of_le Nat.and_le_right
  simp only [List.mem_cons, List.not_mem_nil, or_false] at hdigit
  cases hdigit with
  | inl heq => simp [heq, hexDigit_ne_zero hhigh]
  | inr heq => simp [heq, hexDigit_ne_zero hlow]

end Tokens

/-- What a message that the auth server sends on a connection may be: a refused login, which carries
nothing, a successful one, which rests on an authentication, or another response, which has no room
for a token. -/
def Sound (setup : AuthSetup) (lower : Bytes → Bytes) (arrivals : List (Nat × Message))
    (log : List Handling) (id : Nat) (m : Message) : Prop :=
  (m.type = AuthMessage.loginResponse.toU16 ∧
      ((∃ result ≠ .success, m.payload = loginResponse result [] [] 0 0 0) ∨
        ∃ token accountId level,
          m.payload = loginResponse .success token setup.worldHost setup.worldPort accountId level ∧
            Authenticated setup lower arrivals log id accountId token level)) ∨
    (m.type ≠ AuthMessage.loginResponse.toU16 ∧
      ∃ result : AuthResult, m.payload = ByteWriter.u8 result.toU8)

section Inversion

/-- The lookup that a login waits for was asked for by its message. -/
theorem requested {k id request : Nat} {body : DbRequest} {password username : Bytes}
    (h : Reason setup lower arrivals log k (.ask body (.login request id password username))) :
    k = request ∧ body = .accountLookup username ∧ Requested arrivals k id username password := by
  cases h.inversion with
  | inl hheard =>
      obtain ⟨id', m, random, harrived, hheard⟩ := hheard
      cases hheard with
      | login htype hread => exact ⟨rfl, rfl, m, harrived, htype, hread⟩
  | inr hresumed =>
      obtain ⟨handler, reply, random, -, hresumed, -⟩ := hresumed
      cases hresumed

/-- What a lookup that found an account found. -/
theorem handle_accountLookup {d : Database} {now : ℚ} {o : Outcome} {username : Bytes}
    {accountId : Nat} {passwordHash : Bytes} {level : UInt8}
    (h : (DbServer.handle lower d now o (.accountLookup username)).2 =
      .accountLookup true accountId passwordHash level) :
    ∃ a, d.findAccount lower username o.first = some (some a) ∧ a.id = accountId ∧
      a.passwordHash = passwordHash ∧ Database.levelOf a = level := by
  rw [DbServer.handle] at h
  split at h
  · rename_i a hfound
    cases h
    exact ⟨a, hfound, rfl, rfl, rfl⟩
  · cases h

/-- The session that a callback waits for was asked for after the password had been verified
against the account. -/
theorem verified {k id request accountId : Nat} {body : DbRequest} {token username : Bytes}
    {level : UInt8}
    (h : Reason setup lower arrivals log k
      (.ask body (.sessionCreated request id token username accountId level))) :
    body = .sessionCreate accountId token setup.sessionTtl ∧
      Database.cString token = token ∧
      ∃ password a, Requested arrivals k id username password ∧
        Resolved lower log k username a ∧ a.id = accountId ∧ Database.levelOf a = level ∧
        setup.verifyPassword a.passwordHash password = true := by
  cases h.inversion with
  | inl hheard =>
      obtain ⟨id', m, random, -, hheard⟩ := hheard
      cases hheard
  | inr hresumed =>
      obtain ⟨handler, reply, random, hk, hresumed, htells⟩ := hresumed
      cases hresumed with
      | @verified _ _ _ password _ passwordHash _ hverifies =>
          obtain ⟨entry, hentry, hside, hreply, hasks⟩ := htells _ rfl
          obtain ⟨horigin, hbody, hrequested⟩ := requested hasks
          rw [Handling.result, hbody] at hreply
          obtain ⟨a, hfound, hid, rfl, hlevel⟩ := handle_accountLookup hreply
          rw [AuthHandler.request, ← horigin] at hk
          subst hk
          exact ⟨rfl, cString_generateToken _, password, a, hrequested,
            ⟨entry, hentry, hside, rfl, hbody, hfound⟩, hid, hlevel, hverifies⟩

/-- A session that is reported as created has its row. -/
theorem handle_sessionCreate {d : Database} {now : ℚ} {o : Outcome} {accountId : Nat}
    {token : Bytes} {ttlSeconds : UInt32}
    (h : (DbServer.handle lower d now o (.sessionCreate accountId token ttlSeconds)).2 =
      .sessionCreate .ok) :
    ∃ row ∈ (DbServer.handle lower d now o (.sessionCreate accountId token ttlSeconds)).1.sessions,
      row.token = Database.cString token ∧ row.accountId = accountId := by
  rw [DbServer.handle] at h ⊢
  cases DbServer.createSession_cases (d := d) accountId token ttlSeconds now o.first with
  | inl hrefused =>
      rw [hrefused] at h
      cases h
  | inr hcreated =>
      obtain ⟨-, -, -, heq⟩ := hcreated
      rw [heq]
      exact ⟨_, List.mem_append_right _ (List.mem_singleton_self _), rfl, rfl⟩

/-- An answer with a reason is sound. -/
theorem answered {k id : Nat} {type : AuthMessage} {payload : Bytes}
    (h : Reason setup lower arrivals log k (.answer id type payload)) :
    Sound setup lower arrivals log id ⟨type.toU16, payload⟩ := by
  cases h.inversion with
  | inl hheard =>
      obtain ⟨id', m, random, -, hheard⟩ := hheard
      cases hheard with
      | refused hresult => exact Or.inl ⟨rfl, Or.inl ⟨_, hresult, rfl⟩⟩
      | rejected htype hresult => exact Or.inr ⟨AuthMessage.toU16_injective.ne htype, _, rfl⟩
  | inr hresumed =>
      obtain ⟨handler, reply, random, hk, hresumed, htells⟩ := hresumed
      cases hresumed with
      | refused hresult => exact Or.inl ⟨rfl, Or.inl ⟨_, hresult, rfl⟩⟩
      | rejected htype hresult => exact Or.inr ⟨AuthMessage.toU16_injective.ne htype, _, rfl⟩
      | changed hchange =>
          right
          refine ⟨AuthMessage.toU16_injective.ne ?_, _, rfl⟩
          cases handler with
          | login request id password username => cases hchange
          | sessionCreated request id token username accountId level => cases hchange
          | admin request id command target password level => cases hchange
          | registered request id username => exact AuthMessage.noConfusion
          | accountCreated request id target level actor => exact AuthMessage.noConfusion
          | accountDeleted request id target actor => exact AuthMessage.noConfusion
          | levelSet request id target level actor => exact AuthMessage.noConfusion
      | @confirmed request _ accountId token username level =>
          left
          refine ⟨rfl, Or.inr ⟨token, accountId, level, rfl, ?_⟩⟩
          obtain ⟨entry, hentry, hside, hreply, hasks⟩ := htells _ rfl
          obtain ⟨hbody, htoken, password, a, hrequested, hresolved, hid, hlevel, hverifies⟩ :=
            verified hasks
          refine ⟨_, username, password, a, hrequested, hresolved, hid, hlevel, hverifies,
            entry, hentry, hside, rfl, ⟨_, hbody⟩, hreply, ?_⟩
          rw [Handling.result, hbody] at hreply ⊢
          obtain ⟨row, hrow, hrowtoken, haccount⟩ := handle_sessionCreate hreply
          exact ⟨row, hrow, hrowtoken.trans htoken, haccount⟩

end Inversion

section Runs

open Backend Sim

variable {F : Type*} [Scalar F] (deployment : Deployment F)

/-- In every run, a login succeeds only on a connection that sent the credentials of the account,
whose session the database had confirmed, and only then a token is sent. -/
theorem login_sound (database : Database) (now : ClockReading F) (events : List (Event F)) (id : Nat)
    (m : Message) (hsent : (id, m) ∈ (chronicle deployment database now events).1.auth.server.sent) :
    Sound deployment.auth deployment.lower (chronicle deployment database now events).1.auth.arrivals
      (chronicle deployment database now events).2 id m := by
  obtain ⟨k, type, payload, hreason, rfl⟩ :=
    (grounded_chronicle deployment database now events).sent id m hsent
  exact answered hreason

/-- Somebody logs in. -/
def loggingIn : List (Event ℚ) :=
  [.auth .accept,
    .auth (.message 1 ⟨AuthMessage.loginRequest.toU16,
      ByteWriter.u32 kProtocolVersion ++ ByteWriter.string [97] ++ ByteWriter.string [98]⟩
      ⟨[], none⟩),
    .handle .auth 0 ⟨true, true⟩, .authReply ⟨[0xab], none⟩, .handle .auth 0 ⟨true, true⟩,
    .authReply ⟨[], none⟩]

theorem login_sound_admin :
    let run := chronicle .level ⟨[⟨1, [97], [98], 2⟩], [], 2⟩ Clocks.noon.clock loggingIn
    let response : Message :=
      ⟨AuthMessage.loginResponse.toU16, loginResponse .success [97, 98] [] 7002 1 2⟩
    (1, response) ∈ run.1.auth.server.sent ∧
      Sound Deployment.level.auth Deployment.level.lower run.1.auth.arrivals run.2 1 response := by
  intro run response
  have hsent : (1, response) ∈ run.1.auth.server.sent := by decide +kernel
  exact ⟨hsent, login_sound .level _ Clocks.noon.clock loggingIn 1 response hsent⟩

end Runs

end UntitledGame.Server.Login
