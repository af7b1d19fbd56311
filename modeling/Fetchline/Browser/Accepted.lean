import Fetchline.Browser.Readers
import Fetchline.Host.Saves

/-!
# What the host makes of what the page sends

A message is undertaken when the host reads it and, with an MCU to turn to, goes on to ask
something of it instead of turning the message down. Settings are kept when the host stores
them.
-/

namespace Fetchline.Browser

open Host Modes Effects Transition

def Begins {ε : Type} {ρ : ε → Type} {α : Type} (p : Program ε ρ α) : Prop :=
  ∃ e next, p = .call e next

/-- The message is answered with a request to the MCU, once there is a connection to one. -/
def Undertaken (serde : Serde) (mode : TransportMode) (transport : BridgeTransport) :
    ClientMessage → Prop
  | .connect host port => Begins (connect serde mode host port)
  | .servo message => ∀ c : BridgeConnection, c.transport = transport →
      Begins ((serveMessage serde message).run.run c)

section Bridge

variable {α β : Type} {q : Bridge α} {c : BridgeConnection}

theorem Begins.bind (h : Begins (q.run.run c)) (f : α → Bridge β) :
    Begins ((q >>= f).run.run c) := by
  obtain ⟨e, next, hCall⟩ := h
  rw [ExceptT.run_bind, StateT.run_bind, hCall]
  exact ⟨e, _, rfl⟩

theorem not_begins_throw (error : String) : ¬ Begins ((throw error : Bridge α).run.run c) := by
  rintro ⟨e, next, hCall⟩
  cases hCall

variable (serde : Serde)

theorem controllerRequest_begins (hController : c.transport = .controller) (method : String)
    (params : Json.Value) (timeoutMs : Nat) :
    Begins ((controllerRequestWithTimeout serde method params timeoutMs).run.run c) := by
  obtain ⟨peer, transport, requestId⟩ := c
  obtain rfl : transport = .controller := hController
  exact ⟨_, _, rfl⟩

theorem writeRegister_begins (hRaw : c.transport = .debugRaw) (id address : UInt8)
    {data : List UInt8} (hShort : data.length ≤ 7) :
    Begins ((Host.writeRegister id address data).run.run c) := by
  obtain ⟨peer, transport, requestId⟩ := c
  obtain rfl : transport = .debugRaw := hRaw
  have hFits : ¬ 255 < (address :: data).length + 2 := by
    rw [List.length_cons]
    omega
  refine Begins.bind ?_ _
  unfold writePacket
  simp only [if_neg hFits]
  exact ⟨_, _, rfl⟩

theorem byMode_begins {p : Bridge α} (hController : c.transport = .controller → Begins (p.run.run c))
    (hRaw : c.transport = .debugRaw → Begins (q.run.run c)) :
    Begins ((do if ← isController then p else q).run.run c) := by
  have hMode : (do if ← isController then p else q : Bridge α).run.run c =
      (if decide (c.transport = .controller) = true then p else q).run.run c := rfl
  rw [hMode]
  obtain ⟨peer, transport, requestId⟩ := c
  cases transport with
  | controller => exact hController rfl
  | debugRaw => exact hRaw rfl

theorem validateId_unicast {id : UInt8} (h : 1 ≤ id.toNat ∧ id.toNat ≤ 253) :
    validateId id = pure () := by
  rw [validateId, (isUnicastServoId_iff id).mpr h]
  rfl

theorem startMotor_begins {id : UInt8} (hId : 1 ≤ id.toNat ∧ id.toNat ≤ 253) {speed : UInt16}
    (hSpeed : speed.toNat ≤ 4095) (acceleration : UInt8) (direction : Direction) :
    Begins ((Host.startMotor serde id speed acceleration direction).run.run c) := by
  have hSpeed' : ¬ speed > 4095 := fun h =>
    absurd (UInt16.lt_iff_toNat_lt.mp h) (Nat.not_lt.mpr hSpeed)
  unfold Host.startMotor
  rw [validateId_unicast hId, pure_bind]
  simp only [if_neg hSpeed']
  refine byMode_begins (fun hController => ?_) fun hRaw => ?_
  · exact (controllerRequest_begins serde hController _ _ _).bind _
  · refine Begins.bind (writeRegister_begins hRaw id _ ?_) _
    simp

theorem stopMotor_begins {id : UInt8} (hId : 1 ≤ id.toNat ∧ id.toNat ≤ 253) :
    Begins ((Host.stopMotor serde id).run.run c) := by
  unfold Host.stopMotor
  rw [validateId_unicast hId, pure_bind]
  refine byMode_begins (fun hController => ?_) fun hRaw => ?_
  · exact (controllerRequest_begins serde hController _ _ _).bind _
  · refine Begins.bind (writeRegister_begins hRaw id _ ?_) _
    simp

theorem movePosition_begins_iff {id : UInt8} (hId : 1 ≤ id.toNat ∧ id.toNat ≤ 253)
    {torqueLimit : UInt16} (hTorque : torqueLimit.toNat ≤ 1000) (position : UInt16)
    (acceleration : UInt8) :
    Begins ((Host.movePosition serde id position acceleration torqueLimit).run.run c) ↔
      position.toNat ≤ 4095 := by
  have hTorque' : ¬ torqueLimit > 1000 := fun h =>
    absurd (UInt16.lt_iff_toNat_lt.mp h) (Nat.not_lt.mpr hTorque)
  have hPosition : position > 4095 ↔ ¬ position.toNat ≤ 4095 := by
    rw [gt_iff_lt, UInt16.lt_iff_toNat_lt]
    exact Nat.not_le.symm
  unfold Host.movePosition
  rw [validateId_unicast hId, pure_bind]
  by_cases hLow : position.toNat ≤ 4095
  · simp only [if_neg (hPosition.not.mpr (not_not_intro hLow)), if_neg hTorque']
    refine iff_of_true (byMode_begins (fun hController => ?_) fun hRaw => ?_) hLow
    · exact (controllerRequest_begins serde hController _ _ _).bind _
    · refine Begins.bind (writeRegister_begins hRaw id _ ?_) _
      simp
  · simp only [if_pos (hPosition.mpr hLow)]
    exact iff_of_false (not_begins_throw _) hLow

theorem readPosition_begins {id : UInt8} (hId : 1 ≤ id.toNat ∧ id.toNat ≤ 253) :
    Begins ((Host.readPosition serde id).run.run c) := by
  unfold Host.readPosition
  rw [validateId_unicast hId, pure_bind]
  refine byMode_begins (fun hController => ?_) fun hRaw => ?_
  · exact (controllerRequest_begins serde hController _ _ _).bind _
  · obtain ⟨peer, transport, requestId⟩ := c
    obtain rfl : transport = .debugRaw := hRaw
    exact ⟨_, _, rfl⟩

theorem readPositions_begins {ids : List UInt8} (hSome : ids ≠ []) (hSix : ids.length ≤ 6)
    (hIds : ∀ id ∈ ids, 1 ≤ id.toNat ∧ id.toNat ≤ 253) :
    Begins ((Host.readPositions serde ids).run.run c) := by
  rw [Host.readPositions, if_neg (Nat.not_lt.mpr hSix)]
  cases ids with
  | nil => exact absurd rfl hSome
  | cons id ids =>
    obtain ⟨e, next, hCall⟩ := readPosition_begins serde (c := c) (hIds id List.mem_cons_self)
    rw [Host.readPositionsFrom]
    change Begins (((Host.readPosition serde id).run >>= _).run c)
    rw [StateT.run_bind, hCall]
    exact ⟨e, _, rfl⟩

/-- The raw tunnel cannot carry a search. -/
theorem scanServos_begins_iff {startId endId : UInt8}
    (hRange : 1 ≤ startId.toNat ∧ startId.toNat ≤ endId.toNat ∧ endId.toNat ≤ 253) :
    Begins ((Host.scanServos serde startId endId).run.run c) ↔ c.transport = .controller := by
  have hValid : validateScanRange startId endId = pure () := by
    rw [validateScanRange, if_neg]
    rw [← UInt8.toNat_inj, gt_iff_lt, gt_iff_lt, UInt8.lt_iff_toNat_lt, UInt8.lt_iff_toNat_lt]
    change ¬ (startId.toNat = 0 ∨ endId.toNat < startId.toNat ∨ 253 < endId.toNat)
    omega
  unfold Host.scanServos
  rw [hValid, pure_bind]
  obtain ⟨peer, transport, requestId⟩ := c
  cases transport with
  | controller =>
    refine iff_of_true (byMode_begins (fun hController => ?_) (by simp)) rfl
    exact (controllerRequest_begins serde hController _ _ _).bind _
  | debugRaw =>
    refine iff_of_false ?_ (by simp)
    rintro ⟨e, next, hCall⟩
    cases hCall

theorem connect_begins_iff (mode : TransportMode) (host : String) {port : UInt16} (hPort : port ≠ 0) :
    Begins (connect serde mode host port) ↔ Text.trim host ≠ "" := by
  rw [connect]
  by_cases hHost : Text.trim host = ""
  · simp only [if_pos hHost]
    refine iff_of_false ?_ (not_not_intro hHost)
    rintro ⟨e, next, hCall⟩
    cases hCall
  · simp only [if_neg hHost, if_neg hPort]
    exact iff_of_true ⟨_, _, rfl⟩ hHost

end Bridge

def PageMessage.Plausible (transport : BridgeTransport) : PageMessage → Prop
  | .joints (.connect host _) => Text.trim host ≠ ""
  | .joints (.movePosition _ position _ _) =>
    ∃ target, position = some target ∧ 0 ≤ target ∧ target ≤ 4095
  | .scanServos .. => transport = .controller
  | _ => True

/-- The host reads the message and turns to the MCU with it. -/
def Acts (fromStr : String → Except String ClientMessage) (serde : Serde) (mode : TransportMode)
    (transport : BridgeTransport) (message : PageMessage) : Prop :=
  ∃ read, fromStr message.toJson.compact = .ok read ∧ Undertaken serde mode transport read

section Acting

variable {serde : Serde} {mode : TransportMode} {transport : BridgeTransport}

theorem undertakes_some (read : ClientMessage) :
    (∃ read', some read = some read' ∧ Undertaken serde mode transport read') ↔
      Undertaken serde mode transport read := by
  simp

theorem acts_iff_read {fromStr : String → Except String ClientMessage} {message : PageMessage}
    {expected : Option ClientMessage} (h : IsReadAs (fromStr message.toJson.compact) expected) :
    Acts fromStr serde mode transport message ↔
      ∃ read, expected = some read ∧ Undertaken serde mode transport read := by
  rw [Acts]
  cases expected with
  | none =>
    obtain ⟨error, hError⟩ := h
    simp [hError]
  | some read =>
    have hRead : fromStr message.toJson.compact = .ok read := h
    simp [hRead]

theorem connect_undertaken_iff (host : String) {port : Int} (hPort : 1 ≤ port ∧ port ≤ 65535) :
    Undertaken serde mode transport (.connect host (word port)) ↔ Text.trim host ≠ "" := by
  apply connect_begins_iff serde mode host
  rw [ne_eq, ← UInt16.toNat_inj, word_toNat ⟨by omega, hPort.2⟩]
  change ¬ port.toNat = 0
  omega

theorem readPositions_undertaken {ids : List Int} (hSome : ids ≠ []) (hSix : ids.length ≤ 6)
    (hIds : ∀ id ∈ ids, 1 ≤ id ∧ id ≤ 253) :
    Undertaken serde mode transport (.servo (.readPositions (ids.map byte))) := by
  intro c _
  refine readPositions_begins serde (by simpa using hSome) (by simpa using hSix) fun id hMem => ?_
  obtain ⟨id, hId, rfl⟩ := List.mem_map.mp hMem
  exact byte_unicast (hIds id hId)

/-- A position above every slider's end is turned down. -/
theorem movePosition_undertaken_iff {joint : Joint} (h : joint.InRange) {target : Int}
    (hWord : IsWord target) :
    Undertaken serde mode transport (.servo (.movePosition (byte joint.id) (word target)
      (byte joint.acceleration) (word (torqueLimit joint.torquePercent)))) ↔ target ≤ 4095 := by
  have hLimit := torqueLimit_inRange h.torquePercent.1 h.torquePercent.2
  have hTorque : (word (torqueLimit joint.torquePercent)).toNat ≤ 1000 := by
    rw [word_toNat ⟨hLimit.1, by omega⟩]
    omega
  have hTarget : (word target).toNat ≤ 4095 ↔ target ≤ 4095 := by
    rw [word_toNat hWord]
    have hLow := hWord.1
    omega
  have hBegins (c : BridgeConnection) :=
    movePosition_begins_iff serde (c := c) (byte_unicast h.id) hTorque (word target)
      (byte joint.acceleration)
  rw [← hTarget]
  exact ⟨fun h => (hBegins ⟨"", transport, 1⟩).mp (h _ rfl), fun h c _ => (hBegins c).mpr h⟩

theorem startMotor_undertaken {motor : Motor} (h : motor.InRange) (direction : Direction) :
    Undertaken serde mode transport (.servo (.startMotor (byte motor.id)
      (word (motorSpeed motor.speedPercent)) (byte motor.acceleration) direction)) := by
  intro c _
  have hSpeed := motorSpeed_inRange h.speedPercent.1 h.speedPercent.2
  refine startMotor_begins serde (byte_unicast h.id) ?_ _ _
  rw [word_toNat ⟨hSpeed.1, by omega⟩]
  omega

theorem scanRange_bytes {startId endId : Int} (hLow : 1 ≤ startId) (hOrder : startId ≤ endId)
    (hHigh : endId ≤ 253) : 1 ≤ (byte startId).toNat ∧ (byte startId).toNat ≤ (byte endId).toNat ∧
      (byte endId).toNat ≤ 253 := by
  rw [byte_toNat (by omega) (by omega), byte_toNat (by omega) (by omega)]
  omega

theorem scanServos_undertaken_iff {startId endId : Int} (hLow : 1 ≤ startId)
    (hOrder : startId ≤ endId) (hHigh : endId ≤ 253) :
    Undertaken serde mode transport (.servo (.scanServos (byte startId) (byte endId))) ↔
      transport = .controller := by
  have hBegins (c : BridgeConnection) :=
    scanServos_begins_iff serde (c := c) (scanRange_bytes hLow hOrder hHigh)
  exact ⟨fun h => (hBegins ⟨"", transport, 1⟩).mp (h _ rfl),
    fun h c hTransport => (hBegins c).mpr (hTransport.trans h)⟩

theorem movePosition_acts_iff {joint : Joint} (h : joint.InRange) (position : Option Int) :
    (∃ read, PageMessage.read (.joints (.movePosition joint.id position joint.acceleration
        (torqueLimit joint.torquePercent))) = some read ∧ Undertaken serde mode transport read) ↔
      ∃ target, position = some target ∧ 0 ≤ target ∧ target ≤ 4095 := by
  cases position with
  | none => simp [PageMessage.read]
  | some target =>
    rw [PageMessage.read, Option.bind_some]
    by_cases hWord : IsWord target
    · rw [if_pos hWord, undertakes_some, movePosition_undertaken_iff h hWord]
      constructor
      · intro hHigh
        exact ⟨target, rfl, hWord.1, hHigh⟩
      · rintro ⟨target', hSome, -, hHigh⟩
        cases hSome
        exact hHigh
    · rw [if_neg hWord]
      apply iff_of_false (by simp)
      rintro ⟨target', hSome, hLow, hHigh⟩
      cases hSome
      exact hWord ⟨hLow, by omega⟩

variable {fromStr : String → Except String ClientMessage} (hReads : ReadsMessages fromStr)

include hReads

theorem Page.Sends.acts_iff {s : Page} (h : s.settings.InRange) {message : PageMessage}
    (hSends : s.Sends message) :
    Acts fromStr serde mode transport message ↔ message.Plausible transport := by
  obtain ⟨hUi, hMotor⟩ := inRange_settings_iff.mp h
  rw [acts_iff_read (hSends.read hReads h)]
  cases hSends with
  | joints hSends =>
    cases hSends with
    | connect =>
      rw [PageMessage.read, undertakes_some]
      exact connect_undertaken_iff s.ui.host hUi.port
    | readPositions hSome hSix =>
      rw [PageMessage.read, undertakes_some]
      refine iff_of_true (readPositions_undertaken ?_ ?_ ?_) trivial
      · simpa using hSome
      · simpa using hSix
      · intro id hMem
        obtain ⟨index, -, rfl⟩ := List.mem_map.mp hMem
        exact (hUi.joints index).id
    | movePosition index position => exact movePosition_acts_iff (hUi.joints index) position
  | startMotor direction =>
    rw [PageMessage.read, undertakes_some]
    exact iff_of_true (startMotor_undertaken hMotor direction) trivial
  | stopMotor =>
    rw [PageMessage.read, undertakes_some]
    exact iff_of_true (fun c _ => stopMotor_begins serde (byte_unicast hMotor.id)) trivial
  | scanServos hLow hOrder hHigh =>
    rw [PageMessage.read, undertakes_some]
    exact scanServos_undertaken_iff hLow hOrder hHigh

/-- Of the messages that a page sends, however it has been used, the host passes on all but a
connection without a host, a move to where no slider can be, and a search through the raw
tunnel. -/
theorem host_acts_on_messages_iff {number : Option Json.Value → Option Int} {loaded : Settings}
    (hLoaded : Loaded number loaded) {s : Page} (hReach : (page loaded).Reachable s)
    {event : PageEvent} {message : PageMessage} (hSent : .sent message ∈ (s.step event).2) :
    Acts fromStr serde mode transport message ↔ message.Plausible transport :=
  (Page.step_sends hSent).acts_iff hReads
    (Page.reachable_inRange hLoaded (hReach.step event trivial))

end Acting

theorem first_joint : 0 < 6 := Nat.succ_pos 5

theorem hundred_atLeast : positionMin ≤ 100 := by decide

theorem hundred_atMost : 100 ≤ positionMax := by decide

/-- A joint is reported beyond its slider's end before the slider's move goes out. -/
def reportedBeyond : List PageEvent := [
  .joints .socketOpened,
  .joints (.message (.connected "192.168.1.123:3333")),
  .joints (.input ⟨0, first_joint⟩ ⟨100, hundred_atLeast, hundred_atMost⟩),
  .joints (.message (.position 2 5000))]

theorem host_acts_on_messages_iff_beyond :
    .sent (.joints (.movePosition 2 (some 5000) 20 1000)) ∈
      (((page .defaults).run (page .defaults).init reportedBeyond).step (.joints (.expire 1))).2 ∧
    ¬ Acts clientReader responseReader .controller .controller
      (.joints (.movePosition 2 (some 5000) 20 1000)) := by
  have hSent : .sent (.joints (.movePosition 2 (some 5000) 20 1000)) ∈
      (((page .defaults).run (page .defaults).init reportedBeyond).step (.joints (.expire 1))).2 :=
    List.Mem.head _
  refine ⟨hSent, fun hActs => ?_⟩
  obtain ⟨target, hTarget, -, hHigh⟩ := (host_acts_on_messages_iff clientReader_reads
    (@Loaded.defaults fun _ => none) (Machine.reachable_run _) hSent).mp hActs
  cases hTarget
  exact absurd hHigh (by decide)

theorem Page.step_saves {s : Page} {event : PageEvent} {settings : Settings}
    (h : .saved settings ∈ (s.step event).2) : settings = (s.step event).1.settings := by
  have hSend {s : Page} {message : PageMessage} : .saved settings ∉ (s.send message).2 := by
    intro hMem
    rcases Page.of_send hMem with hSent | ⟨text, kind, hStatus⟩
    · cases hSent
    · cases hStatus
  cases event with
  | joints event =>
    rcases List.mem_append.mp h with hPage | hJoints
    · rcases List.mem_append.mp hPage with hSaved | hScan
      · cases hSaves : event.saves with
        | false => simp [hSaves] at hSaved
        | true =>
          rw [hSaves] at hSaved
          cases List.mem_singleton.mp hSaved
          rfl
      · cases event with
        | message received =>
          obtain ⟨text, kind, hResult⟩ := Page.handleScanMessage_shows hScan
          cases hResult
        | _ => cases hScan
    · obtain ⟨output, -, hOutput⟩ := List.mem_map.mp hJoints
      cases output <;> cases hOutput
  | run direction =>
    rw [Page.step, Page.startMotor] at h
    split at h
    · exact absurd h hSend
    · cases h
  | stop =>
    rw [Page.step] at h
    dsimp only at h
    split at h
    · exact absurd h hSend
    · cases h
  | search startValue endValue =>
    rw [Page.step, Page.scanServos] at h
    dsimp only at h
    split at h
    · simp at h
    split at h
    · cases h
    rcases List.mem_cons.mp h with hSearching | hSent
    · cases hSearching
    · exact absurd hSent hSend
  | _ =>
    cases List.mem_singleton.mp h
    rfl

section Saving

variable {number : Option Json.Value → Option Int}
variable {fromStr fromBody : String → Option HostConfig}

theorem admits_iff {settings : Settings} (h : settings.InRange) :
    (∃ admitted, admitBody settings.toHost = .ok admitted) ↔ Text.trim settings.host ≠ "" := by
  constructor
  · rintro ⟨⟨config, rfl, hValid⟩, -⟩ hEmpty
    refine ((validateHostConfig_iff _).mp hValid).host ?_
    change Text.trim (Text.trim settings.host) = ""
    rw [Text.trim_trim, hEmpty]
  · intro hHost
    let admitted : Admitted settings.toHost :=
      ⟨settings.toHost.trimmed, rfl, (validateHostConfig_iff _).mpr (h.valid hHost)⟩
    exact ⟨admitted, admitBody_admitted admitted⟩

/-- The host keeps the settings that a page saves unless they have no host name, and then any
page gets them back, also from a host that has started anew. -/
theorem saved_settings_come_back (hNumber : ReadsWholeNumbers number)
    (hFromBody : ∀ config : HostConfig, fromBody config.toJson.compact = some config)
    {loaded : Settings} (hLoaded : Loaded number loaded) {s : Page}
    (hReach : (page loaded).Reachable s) {event : PageEvent} {settings : Settings}
    (hSaved : .saved settings ∈ (s.step event).2)
    (hFromStr : fromStr settings.toHost.trimmed.toJson.pretty = some settings.toHost.trimmed) :
    settings = (s.step event).1.settings ∧
      fromBody settings.toJson.compact = some settings.toHost ∧
      ((∃ admitted, admitBody settings.toHost = .ok admitted) ↔ Text.trim settings.host ≠ "") ∧
      ∀ admitted, admitBody settings.toHost = .ok admitted →
        loadHostConfig fromStr (some admitted.config.toVecPretty) = admitted.config ∧
        Settings.normalizeConfig number admitted.config.toJson =
          some { settings with host := Text.trim settings.host } := by
  have hSettings := Page.step_saves hSaved
  have hRange : settings.InRange := by
    rw [hSettings]
    exact Page.reachable_inRange hLoaded (hReach.step event trivial)
  refine ⟨hSettings, ?_, admits_iff hRange, fun admitted hAdmitted => ⟨?_, ?_⟩⟩
  · rw [hRange.toJson_eq, hFromBody]
  · apply loadHostConfig_stored admitted
    rw [admitted.trimmed, hFromStr]
  · rw [admitted.trimmed]
    exact hRange.loadedAgain hNumber ((admits_iff hRange).mp ⟨admitted, hAdmitted⟩)

end Saving

def elsewhere : Settings := { Settings.defaults with host := " 10.0.0.2 ", port := 65535 }

theorem saved_settings_come_back_elsewhere :
    configReader elsewhere.toJson.compact = some elsewhere.toHost ∧
    ∃ admitted, admitBody elsewhere.toHost = .ok admitted ∧
      loadHostConfig (readerOf [elsewhere.toHost.trimmed]) (some admitted.config.toVecPretty) =
        admitted.config ∧
      Settings.normalizeConfig wholeNumber admitted.config.toJson =
        some { elsewhere with host := Text.trim elsewhere.host } := by
  have hSaved : .saved elsewhere ∈ (((page .defaults).init).step
      (.joints (.submitConnection " 10.0.0.2 " (some 70000)))).2 := List.Mem.head _
  have hFromStr : readerOf [elsewhere.toHost.trimmed] elsewhere.toHost.trimmed.toJson.pretty =
      some elsewhere.toHost.trimmed := by
    simp [readerOf]
  obtain ⟨-, hBody, hAdmits, hBack⟩ := saved_settings_come_back wholeNumber_reads
    configReader_reads .defaults .init hSaved hFromStr
  obtain ⟨admitted, hAdmitted⟩ := hAdmits.mpr (by decide)
  exact ⟨hBody, admitted, hAdmitted, hBack admitted hAdmitted⟩

end Fetchline.Browser
