/-
Logging in again.

A login that begins leaves nothing of what was there before it, so it does not matter how the logins
before it ended.  While it goes on, refused logins and reports on other attempts do not touch the
session at all (`Session.run_idle`).  Main statement: `Session.login_succeeds_after_any_past`.
-/
import GatewayLogin.Proofs.Packet.Fields
import GatewayLogin.Proofs.Session.Attempts
import GatewayLogin.Proofs.Session.Awaited

namespace GatewayLogin

/-- What means nothing to a session that waits for an attempt, or for none: a login that is refused,
and whatever is reported on an attempt that is not waited for. -/
inductive Operation.Idle (waited : Option ConnectAttempt) : Operation → Prop where
  | refused {credentials : Credentials} {fault : Fault}
      (h : credentials.validate = .error fault) : Idle waited (.startLogin credentials)
  | stale {operation : Operation} {attempt : ConnectAttempt}
      (h : operation.attempt? = some attempt) (hstale : waited ≠ some attempt) :
      Idle waited operation

namespace Session

variable {s : Session}

theorem isCurrent_of_timer_ne {attempt : ConnectAttempt} (h : s.timer ≠ some attempt) :
    s.isCurrent attempt = false := by
  simp [isCurrent, h]

theorem perform_idle {operation : Operation} (h : operation.Idle s.timer) :
    (s.perform operation).session = s := by
  cases h with
  | refused hfault => simp only [perform, Step.map, startLogin, hfault]
  | stale hattempt hstale =>
      exact (ignored_of_not_isCurrent hattempt (isCurrent_of_timer_ne hstale)).session

theorem run_idle {operations : List Operation}
    (h : ∀ operation ∈ operations, operation.Idle s.timer) : s.run operations = s := by
  induction operations with
  | nil => rfl
  | cons operation rest ih =>
      have hfirst : (s.perform operation).session = s :=
        perform_idle (h operation List.mem_cons_self)
      have hrest : s.run rest = s := ih fun later hlater => h later (List.mem_cons_of_mem _ hlater)
      change (s.perform operation).session.run rest = s
      rw [hfirst, hrest]

/-- While the numbers last, the handle that is answered to a login was answered to none before. -/
theorem startLogin_attempt_fresh {settings : ClientSettings} {before : List Operation}
    (hroom : ((new settings).logins before).length < 2 ^ 64 - 1) {credentials : Credentials}
    {attempt : ConnectAttempt}
    (hreply : (((new settings).run before).startLogin credentials).reply = .ok attempt) :
    attempt ∉ ((new settings).logins before).map Login.attempt := by
  have hbegun : (new settings).logins (before ++ [.startLogin credentials]) =
      (new settings).logins before ++ [⟨credentials, attempt⟩] := by
    rw [logins_append, logins_cons]
    simp only [perform, Step.map, hreply]
    rfl
  have hnodup := logins_attempt_nodup (new settings) (before ++ [.startLogin credentials])
    (by rw [hbegun, List.length_append, List.length_singleton]; omega)
  rw [hbegun, List.map_append, List.nodup_append] at hnodup
  intro hused
  exact hnodup.2.2 attempt hused attempt List.mem_cons_self rfl

theorem At.run_idle {phase : Phase} (h : s.At phase) {operations : List Operation}
    (hidle : ∀ operation ∈ operations, operation.Idle phase.timer?) :
    (s.run operations).At phase := by
  rw [← h.timer] at hidle
  rwa [Session.run_idle hidle]

/-- The session is signed in over a connection as whom some credentials name. -/
structure SignedInAs (s : Session) (credentials : Credentials) (connection : ConnectionId) :
    Prop where
  state : s.state = .connected
  connection : s.connection = some connection
  identity : s.identity = some ⟨credentials.userId, credentials.deviceId⟩

theorem At.signedInAs {login : Login} {connection : ConnectionId}
    (h : s.At (.signedIn login connection)) : s.SignedInAs login.credentials connection :=
  ⟨h.state, h.connection, h.identity⟩

/-- Whatever was done with a session before, a login with complete credentials is answered a handle,
a new one while there are numbers, and goes through: the connection that opens with this handle is
taken, over a connection that takes the frame the request is sent, and a frame of a packet with code
zero concludes it.  Refused logins and reports on attempts that are not waited for may come between
any two of these steps. -/
theorem login_succeeds_after_any_past (settings : ClientSettings) (before : List Operation)
    {credentials : Credentials} (hvalid : credentials.validate = .ok ()) :
    let s := (new settings).run before
    ∃ attempt, (s.startLogin credentials).reply = .ok attempt ∧
      (((new settings).logins before).length < 2 ^ 64 - 1 →
        attempt ∉ ((new settings).logins before).map Login.attempt) ∧
      ∀ connection clock write frame packet,
        write (signInFrame settings credentials clock).1 = .ok () →
        Packet.decode frame = .ok packet → packet.code = 0 →
        ∀ first second third : List Operation,
          (∀ operation ∈ first, operation.Idle (some attempt)) →
          (∀ operation ∈ second, operation.Idle none) →
          (∀ operation ∈ third, operation.Idle none) →
          let dialing := (s.startLogin credentials).session.run first
          let opened := (dialing.transportOpened attempt connection).session.run second
          let waiting := (opened.sendSignIn clock write).session.run third
          (dialing.transportOpened attempt connection).reply = true ∧
            (opened.sendSignIn clock write).reply = .ok (signInFrame settings credentials clock).1 ∧
            (waiting.frameReceived frame).reply = some packet ∧
            (waiting.frameReceived frame).session.SignedInAs credentials connection := by
  intro s
  obtain ⟨attempt, hreply, -, hbegun⟩ := startLogin_yields s hvalid
  refine ⟨attempt, hreply, fun hroom => startLogin_attempt_fresh hroom hreply, ?_⟩
  intro connection clock write frame packet hwrite hdecode hcode first second third hfirst hsecond
    hthird dialing opened waiting
  have hdialing : dialing.At (.dialing ⟨credentials, attempt⟩) := hbegun.phase.run_idle hfirst
  obtain ⟨htaken, hnext⟩ := hdialing.transportOpened connection
  have hopened : opened.At (.opened ⟨credentials, attempt⟩ connection) := hnext.run_idle hsecond
  have hsettings : opened.settings = settings := by
    have hstart : (s.startLogin credentials).session.settings = s.settings :=
      perform_settings s (.startLogin credentials)
    have hopen : (dialing.transportOpened attempt connection).session.settings = dialing.settings :=
      perform_settings dialing (.transportOpened attempt connection)
    rw [run_settings, hopen, run_settings, hstart, run_settings]
    rfl
  obtain ⟨hsent, hyields, -⟩ := hopened.sent_yields clock write (by rwa [hsettings])
  rw [hsettings] at hsent
  have hwaiting : waiting.At (.waiting ⟨credentials, attempt⟩ connection) :=
    hyields.phase.run_idle hthird
  have hreceive : Packet.receive frame = packet := by simp only [Packet.receive, hdecode]
  obtain ⟨hanswer, hconcluded⟩ := hwaiting.frameReceived frame
  rw [hreceive] at hanswer hconcluded
  rw [if_pos (Packet.isSuccess_iff.mpr hcode)] at hconcluded
  exact ⟨htaken, hsent, hanswer, hconcluded.signedInAs⟩

/-- A login that was rejected, and one that ended with its connection. -/
def failedLogins : List Operation := [
  .startLogin ⟨"ws://gateway", 7, 8, "secret"⟩,
  .transportOpened ⟨1, .ofSeconds 5⟩ 1,
  .sendSignIn 1700000000000 fun _ => .ok (),
  .frameReceived [0x18, 0x05],
  .startLogin ⟨"ws://gateway", 7, 8, "secret"⟩,
  .transportErrored "reset"]

/-- A login after those, with what their attempts still report in between, and a login without a
user. -/
theorem login_succeeds_after_failedLogins :
    let credentials : Credentials := ⟨"ws://gateway", 9, 8, "other"⟩
    let late : List Operation := [
      .timeoutElapsed ⟨2, .ofSeconds 5⟩, .transportOpened ⟨1, .ofSeconds 5⟩ 2,
      .startLogin ⟨"ws://gateway", 0, 8, "other"⟩]
    let s := (new {}).run failedLogins
    let dialing := (s.startLogin credentials).session.run late
    let opened := (dialing.transportOpened ⟨3, .ofSeconds 5⟩ 3).session.run late
    let waiting := (opened.sendSignIn 1700000000000 fun _ => .ok ()).session.run late
    credentials.validate = .ok () ∧
      (s.startLogin credentials).reply = .ok ⟨3, .ofSeconds 5⟩ ∧
      ⟨3, .ofSeconds 5⟩ ∉ ((new {}).logins failedLogins).map Login.attempt ∧
      (dialing.transportOpened ⟨3, .ofSeconds 5⟩ 3).reply = true ∧
      (waiting.frameReceived [0x22, 0x02, 0x6F, 0x6B]).reply = some ⟨0, 0, 0, "ok", none⟩ ∧
      (waiting.frameReceived [0x22, 0x02, 0x6F, 0x6B]).session.SignedInAs credentials 3 := by
  intro credentials late s dialing opened waiting
  have hvalid : credentials.validate = .ok () := by decide +kernel
  obtain ⟨attempt, hreply, hfresh, hgoes⟩ := login_succeeds_after_any_past {} failedLogins hvalid
  have hattempt : (s.startLogin credentials).reply = .ok ⟨3, .ofSeconds 5⟩ := by
    decide +kernel
  obtain rfl : ⟨3, .ofSeconds 5⟩ = attempt := Except.ok.inj (hattempt.symm.trans hreply)
  have huserless : (⟨"ws://gateway", 0, 8, "other"⟩ : Credentials).validate =
      .error (.invalidCredentials "missing user id") := by decide +kernel
  have hidle (waited : Option ConnectAttempt) (htwo : waited ≠ some ⟨2, .ofSeconds 5⟩)
      (hone : waited ≠ some ⟨1, .ofSeconds 5⟩) : ∀ operation ∈ late, operation.Idle waited := by
    intro operation hoperation
    simp only [late, List.mem_cons, List.not_mem_nil, or_false] at hoperation
    rcases hoperation with rfl | rfl | rfl
    · exact .stale rfl htwo
    · exact .stale rfl hone
    · exact .refused huserless
  obtain ⟨hopens, -, hanswer, hends⟩ := hgoes 3 1700000000000 (fun _ => .ok ())
    [0x22, 0x02, 0x6F, 0x6B] ⟨0, 0, 0, "ok", none⟩ rfl (by decide +kernel) rfl late late late
    (hidle _ (by decide) (by decide)) (hidle _ (by decide) (by decide))
    (hidle _ (by decide) (by decide))
  exact ⟨hvalid, hattempt, hfresh (by decide +kernel), hopens, hanswer, hends⟩

end Session

end GatewayLogin
