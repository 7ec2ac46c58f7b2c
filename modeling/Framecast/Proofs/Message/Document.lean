import Framecast.Message.Document
import Framecast.Proofs.Json.Reading
import Framecast.Proofs.Json.Rendering

/-!
# Messages are read back

Each reader takes back what its writer makes. What a document cannot keep is a rate: it is written
in decimal, and one that is not finite as `null`. So a message is read back whole if the rates in it
are (`Rate.Kept`), and whatever it holds if there are none in it (`message_round_trip`). A
configuration is validated in addition when it is read (`SessionConfig.document_round_trip`).
-/

namespace Framecast

open Json

/-! ## Rates in messages -/

/-- A way to write rates keeps this rate. -/
structure Rate.Kept (rate : Rate → Json) (r : Rate) : Prop where
  /-- What is written for it has a spelling. -/
  proper : (rate r).Proper
  /-- The rate is read from what is written. -/
  read : Rate.ofJson? (rate r) = some r

/-- The rates among the figures. -/
def SessionStats.rates (s : SessionStats) : List Rate := [s.fps, s.targetFps]

/-- The rates in a warning. -/
def Warning.rates : Warning → List Rate
  | .frameRateBelowTarget fps target => [fps, target]
  | _ => []

/-- The rates in a state. -/
def SessionState.rates : SessionState → List Rate
  | .live _ stats => stats.rates
  | _ => []

/-- The rates in an event. -/
def Event.rates : Event → List Rate
  | .stateChanged previous current => previous.rates ++ current.rates
  | .stats s => s.rates
  | .warning w => w.rates
  | _ => []

/-! ## Parts of messages -/

/-- What spells the document of a value, and is read as that value, is read back from the text. -/
theorem parse?_render_bind {α : Type} {v : Json} {read : Json → Option α} {a : α}
    (proper : v.Proper) (h : read v = some a) : (parse? v.render).bind read = some a := by
  rw [parse?_render proper, Option.bind_some, h]

/-- A tier is read back. -/
@[simp] theorem Tier.ofJson?_toJson (t : Tier) : ofJson? t.toJson = some t := by
  cases t <;> rfl

/-- A codec is read back. -/
@[simp] theorem Codec.ofJson?_toJson (c : Codec) : ofJson? c.toJson = some c := by
  cases c <;> rfl

/-- A configuration is read back, before it is validated. -/
@[simp] theorem SessionConfig.ofJson?_toJson (c : SessionConfig) : ofJson? c.toJson = some c := by
  have hformat : asOption? asString? (option text c.outputFormat) = some c.outputFormat :=
    asOption?_option asString?_text (fun _ => by simp [text]) c.outputFormat
  simp [ofJson?, toJson, hformat]

/-- The document of a configuration has a spelling. -/
@[simp] theorem SessionConfig.proper_toJson (c : SessionConfig) : c.toJson.Proper := by
  have hformat := proper_option proper_text c.outputFormat
  simp [toJson, Tier.toJson, Codec.toJson, hformat]

/-- A phase of startup is read back. -/
@[simp] theorem StartupPhase.ofJson?_toJson (p : StartupPhase) : ofJson? p.toJson = some p := by
  cases p <;> rfl

/-- A phase of shutdown is read back. -/
@[simp] theorem ShutdownPhase.ofJson?_toJson (p : ShutdownPhase) : ofJson? p.toJson = some p := by
  cases p <;> rfl

/-- The message of a reason is read back. -/
@[simp] theorem messageOf?_struct (m : String) :
    messageOf? (.struct [("message", .text m)]) = some m := by
  simp [messageOf?]

/-- A reason to stop is read back. -/
@[simp] theorem StopReason.ofJson?_toJson (r : StopReason) : ofJson? r.toJson = some r := by
  cases r <;> simp [ofJson?, toJson]

/-- The document of a reason to stop has a spelling. -/
@[simp] theorem StopReason.proper_toJson (r : StopReason) : r.toJson.Proper := by
  cases r <;> simp [toJson]

/-! ## Whole messages -/

section Messages

variable {rate : Rate → Json}

/-- Figures are read back if their rates are kept. -/
theorem SessionStats.ofJson?_toJson (s : SessionStats) (kept : ∀ r ∈ s.rates, r.Kept rate) :
    ofJson? (s.toJson rate) = some s := by
  have hfps := (kept s.fps (by simp [rates])).read
  have htarget := (kept s.targetFps (by simp [rates])).read
  simp [ofJson?, toJson, hfps, htarget]

/-- The document of figures has a spelling if their rates are kept. -/
theorem SessionStats.proper_toJson (s : SessionStats) (kept : ∀ r ∈ s.rates, r.Kept rate) :
    (s.toJson rate).Proper := by
  have hfps := (kept s.fps (by simp [rates])).proper
  have htarget := (kept s.targetFps (by simp [rates])).proper
  simp [toJson, hfps, htarget]

/-- A warning is read back if its rates are kept. -/
theorem Warning.ofJson?_toJson (w : Warning) (kept : ∀ r ∈ w.rates, r.Kept rate) :
    ofJson? (w.toJson rate) = some w := by
  cases w with
  | packetWriteFailures count | encoderStalled code => simp [ofJson?, toJson]
  | frameRateBelowTarget fps target =>
    have hfps := (kept fps (by simp [rates])).read
    have htarget := (kept target (by simp [rates])).read
    simp [ofJson?, toJson, hfps, htarget]

/-- The document of a warning has a spelling if its rates are kept. -/
theorem Warning.proper_toJson (w : Warning) (kept : ∀ r ∈ w.rates, r.Kept rate) :
    (w.toJson rate).Proper := by
  cases w with
  | packetWriteFailures count | encoderStalled code => simp [toJson]
  | frameRateBelowTarget fps target =>
    have hfps := (kept fps (by simp [rates])).proper
    have htarget := (kept target (by simp [rates])).proper
    simp [toJson, hfps, htarget]

/-- A state is read back if its rates are kept. -/
theorem SessionState.ofJson?_toJson (s : SessionState) (kept : ∀ r ∈ s.rates, r.Kept rate) :
    ofJson? (s.toJson rate) = some s := by
  cases s with
  | live config stats =>
    have hstats := stats.ofJson?_toJson kept
    simp [ofJson?, toJson, hstats]
  | idle | starting phase | stopping reason phase | error message recoverable =>
    simp [ofJson?, toJson]

/-- The document of a state has a spelling if its rates are kept. -/
theorem SessionState.proper_toJson (s : SessionState) (kept : ∀ r ∈ s.rates, r.Kept rate) :
    (s.toJson rate).Proper := by
  cases s with
  | live config stats =>
    have hstats := stats.proper_toJson kept
    simp [toJson, hstats]
  | idle | starting phase | stopping reason phase | error message recoverable =>
    simp [toJson, StartupPhase.toJson, ShutdownPhase.toJson]

/-- A command is read back. -/
theorem Command.ofJson?_toJson (c : Command) : ofJson? c.toJson = some c := by
  cases c <;> simp [ofJson?, toJson]

/-- The document of a command has a spelling. -/
theorem Command.proper_toJson (c : Command) : c.toJson.Proper := by
  cases c <;> simp [toJson]

/-- An event is read back if its rates are kept. -/
theorem Event.ofJson?_toJson (e : Event) (kept : ∀ r ∈ e.rates, r.Kept rate) :
    ofJson? (e.toJson rate) = some e := by
  cases e with
  | stateChanged previous current =>
    have hprevious := previous.ofJson?_toJson fun r hr => kept r (List.mem_append_left _ hr)
    have hcurrent := current.ofJson?_toJson fun r hr => kept r (List.mem_append_right _ hr)
    simp [ofJson?, toJson, hprevious, hcurrent]
  | stats s =>
    have hstats := s.ofJson?_toJson kept
    simp [ofJson?, toJson, hstats]
  | warning w =>
    have hwarning := w.ofJson?_toJson kept
    simp [ofJson?, toJson, hwarning]
  | error recoverable message | ready | shutdown => simp [ofJson?, toJson]

/-- The document of an event has a spelling if its rates are kept. -/
theorem Event.proper_toJson (e : Event) (kept : ∀ r ∈ e.rates, r.Kept rate) :
    (e.toJson rate).Proper := by
  cases e with
  | stateChanged previous current =>
    have hprevious := previous.proper_toJson fun r hr => kept r (List.mem_append_left _ hr)
    have hcurrent := current.proper_toJson fun r hr => kept r (List.mem_append_right _ hr)
    simp [toJson, hprevious, hcurrent]
  | stats s =>
    have hstats := s.proper_toJson kept
    simp [toJson, hstats]
  | warning w =>
    have hwarning := w.proper_toJson kept
    simp [toJson, hwarning]
  | error recoverable message | ready | shutdown => simp [toJson]

/-- A state is read back from its document if the rates in it are kept. -/
theorem SessionState.reads_back (s : SessionState) (kept : ∀ r ∈ s.rates, r.Kept rate) :
    (parse? (s.toJson rate).render).bind SessionState.ofJson? = some s :=
  parse?_render_bind (s.proper_toJson kept) (s.ofJson?_toJson kept)

/-- An event is read back from its document if the rates in it are kept. -/
theorem Event.reads_back (e : Event) (kept : ∀ r ∈ e.rates, r.Kept rate) :
    (parse? (e.toJson rate).render).bind Event.ofJson? = some e :=
  parse?_render_bind (e.proper_toJson kept) (e.ofJson?_toJson kept)

end Messages

/-- Every command and every reason to stop is read back from its document, and so is every state and
every event without rates. -/
theorem message_round_trip :
    (∀ c : Command, (parse? c.toJson.render).bind Command.ofJson? = some c) ∧
    (∀ r : StopReason, (parse? r.toJson.render).bind StopReason.ofJson? = some r) ∧
    (∀ s : SessionState, s.rates = [] →
      (parse? (s.toJson documentRate).render).bind SessionState.ofJson? = some s) ∧
    (∀ e : Event, e.rates = [] →
      (parse? (e.toJson documentRate).render).bind Event.ofJson? = some e) := by
  refine ⟨fun c => ?_, fun r => ?_, fun s hs => ?_, fun e he => ?_⟩
  · exact parse?_render_bind c.proper_toJson c.ofJson?_toJson
  · exact parse?_render_bind r.proper_toJson r.ofJson?_toJson
  · refine s.reads_back fun r hr => ?_
    rw [hs] at hr
    exact absurd hr List.not_mem_nil
  · refine e.reads_back fun r hr => ?_
    rw [he] at hr
    exact absurd hr List.not_mem_nil

/-! ## Configuration documents -/

namespace SessionConfig

/-- A configuration is refused for a field that holds an unusable value, and for nothing else. -/
theorem validate_error {c : SessionConfig} {e : ConfigError} (h : c.validate = .error e) :
    ∃ reason, e = .invalid reason := by
  unfold validate at h
  split at h
  · rename_i reason _
    exact ⟨reason, (Except.error.inj h).symm⟩
  · cases h

/-- Reading a document that is of the right form comes down to validating the configuration. -/
theorem ofText_of_read {text : String} {c : SessionConfig}
    (h : (parse? text).bind ofJson? = some c) :
    ofText text = c.validate.bind fun _ => .ok c := by
  unfold ofText
  rw [h]
  rfl

/-- The document of a configuration is read as that configuration if it is valid, and as the reason
why it is not otherwise; and whatever is read from a text is valid. -/
theorem document_round_trip :
    (∀ c : SessionConfig,
      (c.validate = .ok () → ofText c.toJson.render = .ok c) ∧
      ∀ e, c.validate = .error e →
        (∃ reason, e = .invalid reason) ∧ ofText c.toJson.render = .error e) ∧
    ∀ (text : String) (c : SessionConfig), ofText text = .ok c → c.validate = .ok () := by
  constructor
  · intro c
    have hread := ofText_of_read (parse?_render_bind c.proper_toJson c.ofJson?_toJson)
    constructor
    · intro hvalid
      rw [hread, hvalid]
      rfl
    · intro e he
      refine ⟨validate_error he, ?_⟩
      rw [hread, he]
      rfl
  · intro text c h
    -- Whatever was read has been validated before it is given out.
    cases hparse : (parse? text).bind ofJson? with
    | none =>
      unfold ofText at h
      rw [hparse] at h
      cases h
    | some d =>
      rw [ofText_of_read hparse] at h
      cases hvalid : d.validate with
      | error e =>
        rw [hvalid] at h
        cases h
      | ok u =>
        rw [hvalid] at h
        obtain rfl := Except.ok.inj h
        exact hvalid

end SessionConfig

end Framecast
