import Framecast.Proofs.Container.Memory

/-!
# Containers in memory and their handles

A container in memory is used through handles: whoever makes a container has one, and a clone of a
handle is another one to the same container. Whatever is asked of containers through any of their
handles in any order, the parts of every container agree (`WellFormed`), what is written stays
written (`Leads`), and a request that is refused changes nothing at all.

Each request is one of the calls that `Reachable` lists, so that all of this is inherited from the
single calls of a container.
-/

namespace Framecast

namespace MemoryContainer

/-- What is asked of a container in memory: an option is chosen, or it is called as a container. -/
inductive Request
  | globalHeader (wanted : Bool)
  | streamLimit (max : Nat)
  | muxerTimeBase (timeBase : Rational)
  | addStream (spec : StreamSpec)
  | writeHeader
  | writePacket (packet : Packet)
  | writeTrailer

/-- What a container answers. -/
inductive Reply
  /-- An option is chosen; there is nothing to say. -/
  | chosen
  /-- The index of a new stream, if there is room for it. -/
  | index (i : Option Nat)
  /-- Something was written, or not. -/
  | outcome (r : Except Fault Unit)

/-- The container says no: it gives no index, or a fault. -/
def Reply.isRefusal : Reply → Bool
  | .index none => true
  | .outcome (.error _) => true
  | _ => false

/-- Ask something of a container. -/
def ask (c : MemoryContainer) : Request → Reply × MemoryContainer
  | .globalHeader wanted => (.chosen, c.withGlobalHeader wanted)
  | .streamLimit max => (.chosen, c.withStreamLimit max)
  | .muxerTimeBase timeBase => (.chosen, c.withMuxerTimeBase timeBase)
  | .addStream spec => (.index (c.addStream spec).1, (c.addStream spec).2)
  | .writeHeader => (.outcome c.writeHeader.1, c.writeHeader.2)
  | .writePacket p => (.outcome (c.writePacket p).1, (c.writePacket p).2)
  | .writeTrailer => (.outcome c.writeTrailer.1, c.writeTrailer.2)

/-- A container leads to another: what is written of it stays, and the header closes the streams as
the trailer closes the packets. -/
structure Leads (c c' : MemoryContainer) : Prop where
  /-- The header stays, with the streams as they were. -/
  header : c.headerWritten = true → c'.headerWritten = true ∧ c'.streams = c.streams
  /-- The trailer stays, with the packets as they were. -/
  trailer : c.trailerWritten = true → c'.trailerWritten = true ∧ c'.packets = c.packets

/-- A container leads to itself. -/
theorem Leads.refl (c : MemoryContainer) : c.Leads c :=
  ⟨fun h => ⟨h, rfl⟩, fun h => ⟨h, rfl⟩⟩

/-- A container leads to what those lead to that it leads to. -/
theorem Leads.trans {c c' c'' : MemoryContainer} (h : c.Leads c') (h' : c'.Leads c'') :
    c.Leads c'' := by
  constructor
  · intro hh
    obtain ⟨hh', hs⟩ := h.header hh
    obtain ⟨hh'', hs'⟩ := h'.header hh'
    exact ⟨hh'', hs'.trans hs⟩
  · intro ht
    obtain ⟨ht', hp⟩ := h.trailer ht
    obtain ⟨ht'', hp'⟩ := h'.trailer ht'
    exact ⟨ht'', hp'.trans hp⟩

/-- A request is one of the calls that reach a container. -/
theorem Reachable.asked {c : MemoryContainer} (h : c.Reachable) (request : Request) :
    (c.ask request).2.Reachable := by
  cases request with
  | globalHeader wanted => exact h.adjusted wanted c.maxStreams c.muxerTimeBase
  | streamLimit max => exact h.adjusted c.globalHeader (some max) c.muxerTimeBase
  | muxerTimeBase timeBase => exact h.adjusted c.globalHeader c.maxStreams (some timeBase)
  | addStream spec => exact h.added spec
  | writeHeader => exact h.begun
  | writePacket p => exact h.written p
  | writeTrailer => exact h.ended

/-- A request changes nothing, or it is granted and the container leads to what becomes of it. -/
theorem ask_cases (c : MemoryContainer) (request : Request) :
    (c.ask request).2 = c ∨
      ((c.ask request).1.isRefusal = false ∧ c.Leads (c.ask request).2) := by
  cases request with
  | globalHeader wanted => exact .inr ⟨rfl, fun h => ⟨h, rfl⟩, fun h => ⟨h, rfl⟩⟩
  | streamLimit max => exact .inr ⟨rfl, fun h => ⟨h, rfl⟩, fun h => ⟨h, rfl⟩⟩
  | muxerTimeBase timeBase => exact .inr ⟨rfl, fun h => ⟨h, rfl⟩, fun h => ⟨h, rfl⟩⟩
  | addStream spec =>
    dsimp only [ask]
    rcases c.addStream_cases spec with he | ⟨hh, he⟩ <;> rw [he]
    · exact .inl rfl
    · exact .inr ⟨rfl, fun h => absurd (h.symm.trans hh) (by decide), fun h => ⟨h, rfl⟩⟩
  | writeHeader =>
    dsimp only [ask]
    rcases c.writeHeader_cases with ⟨f, he⟩ | ⟨-, he⟩ <;> rw [he]
    · exact .inl rfl
    · exact .inr ⟨rfl, fun _ => ⟨rfl, rfl⟩, fun h => ⟨h, rfl⟩⟩
  | writePacket p =>
    dsimp only [ask]
    rcases c.writePacket_cases p with ⟨f, he⟩ | ⟨last, -, ht, -, -, he⟩ <;> rw [he]
    · exact .inl rfl
    · exact .inr ⟨rfl, fun h => ⟨h, rfl⟩, fun h => absurd (h.symm.trans ht) (by decide)⟩
  | writeTrailer =>
    dsimp only [ask]
    rcases c.writeTrailer_cases with ⟨f, he⟩ | ⟨-, -, he⟩ <;> rw [he]
    · exact .inl rfl
    · exact .inr ⟨rfl, fun h => ⟨h, rfl⟩, fun _ => ⟨rfl, rfl⟩⟩

/-- A request that is refused leaves the container as it was. -/
theorem ask_refused {c : MemoryContainer} {request : Request}
    (h : (c.ask request).1.isRefusal = true) : (c.ask request).2 = c := by
  rcases c.ask_cases request with he | ⟨hgranted, -⟩
  · exact he
  · rw [h] at hgranted
    cases hgranted

/-- A container leads to what a request makes of it. -/
theorem leads_ask (c : MemoryContainer) (request : Request) : c.Leads (c.ask request).2 := by
  rcases c.ask_cases request with he | ⟨-, hleads⟩
  · rw [he]
    exact .refl c
  · exact hleads

end MemoryContainer

open MemoryContainer

/-- Containers in memory, and the handles to them. Both are known by their number. -/
structure Handles where
  /-- The containers, in the order in which they were made. -/
  containers : List MemoryContainer := []
  /-- For each handle the container that it is to. -/
  targets : List Nat := []

namespace Handles

/-- What is done with containers and handles. -/
inductive Act
  /-- A container is made, with a handle to it. -/
  | new
  /-- A handle is cloned. -/
  | clone (handle : Nat)
  /-- Something is asked through a handle. -/
  | ask (handle : Nat) (request : Request)

/-- The container that a handle is to. -/
def container? (s : Handles) (handle : Nat) : Option MemoryContainer :=
  s.targets[handle]?.bind fun i => s.containers[i]?

/-- Ask something through a handle, which there may not be. -/
def ask (s : Handles) (handle : Nat) (request : Request) : Option Reply × Handles :=
  match s.targets[handle]? with
  | none => (none, s)
  | some i =>
    match s.containers[i]? with
    | none => (none, s)
    | some c =>
      let (reply, c) := c.ask request
      (some reply, { s with containers := s.containers.set i c })

/-- Do one thing. -/
def act (s : Handles) : Act → Handles
  | .new =>
    { containers := s.containers ++ [{}], targets := s.targets ++ [s.containers.length] }
  | .clone handle =>
    match s.targets[handle]? with
    | none => s
    | some i => { s with targets := s.targets ++ [i] }
  | .ask handle request => (s.ask handle request).2

/-- Do one thing after the other. -/
def run (s : Handles) (acts : List Act) : Handles := acts.foldl act s

/-! ## Single acts -/

/-- What is asked through a handle goes to its container, if there is one. -/
theorem ask_cases (s : Handles) (handle : Nat) (request : Request) :
    s.ask handle request = (none, s) ∨
      ∃ i c, s.targets[handle]? = some i ∧ s.containers[i]? = some c ∧
        s.ask handle request = (some (c.ask request).1,
          { s with containers := s.containers.set i (c.ask request).2 }) := by
  unfold ask
  cases hi : s.targets[handle]? with
  | none => exact .inl rfl
  | some i =>
    dsimp only
    cases hc : s.containers[i]? with
    | none => exact .inl rfl
    | some c => exact .inr ⟨i, c, rfl, hc, rfl⟩

/-- A handle is to the same container whatever is done. -/
theorem targets_act (s : Handles) (a : Act) : s.targets <+: (s.act a).targets := by
  cases a with
  | new => exact List.prefix_append _ _
  | clone handle =>
    dsimp only [act]
    cases s.targets[handle]? with
    | none => exact List.prefix_rfl
    | some i => exact List.prefix_append _ _
  | ask handle request =>
    have htargets : (s.act (.ask handle request)).targets = s.targets := by
      dsimp only [act]
      rcases s.ask_cases handle request with he | ⟨i, c, -, -, he⟩ <;> rw [he]
    exact htargets.symm ▸ List.prefix_rfl

/-- Every container is one that calls reach, whatever is done. -/
theorem reachable_act {s : Handles} (h : ∀ c ∈ s.containers, c.Reachable) (a : Act) :
    ∀ c ∈ (s.act a).containers, c.Reachable := by
  cases a with
  | new =>
    intro c hc
    rcases List.mem_append.mp hc with hc | hc
    · exact h c hc
    · rw [List.mem_singleton.mp hc]
      exact .new
  | clone handle =>
    dsimp only [act]
    cases s.targets[handle]? with
    | none => exact h
    | some i => exact h
  | ask handle request =>
    dsimp only [act]
    rcases s.ask_cases handle request with he | ⟨i, c, -, hc, he⟩ <;> rw [he]
    · exact h
    · intro c' hc'
      rcases List.mem_or_eq_of_mem_set hc' with hc' | rfl
      · exact h c' hc'
      · exact (h c (List.mem_of_getElem? hc)).asked request

/-- Whatever is done, a container leads to what is found in its place. -/
theorem leads_act {s : Handles} {i : Nat} {c : MemoryContainer} (h : s.containers[i]? = some c)
    (a : Act) : ∃ c', (s.act a).containers[i]? = some c' ∧ c.Leads c' := by
  obtain ⟨hi, -⟩ := List.getElem?_eq_some_iff.mp h
  cases a with
  | new =>
    refine ⟨c, ?_, .refl c⟩
    dsimp only [act]
    rw [List.getElem?_append_left hi]
    exact h
  | clone handle =>
    refine ⟨c, ?_, .refl c⟩
    dsimp only [act]
    cases s.targets[handle]? with
    | none => exact h
    | some i => exact h
  | ask handle request =>
    dsimp only [act]
    rcases s.ask_cases handle request with he | ⟨j, d, -, hd, he⟩ <;> rw [he]
    · exact ⟨c, h, .refl c⟩
    · dsimp only
      by_cases hj : j = i
      · subst hj
        obtain rfl := Option.some.inj (h.symm.trans hd)
        exact ⟨_, List.getElem?_set_self hi, c.leads_ask request⟩
      · refine ⟨c, ?_, .refl c⟩
        rw [List.getElem?_set_ne hj]
        exact h

/-! ## Any acts -/

/-- Acts one after the other. -/
theorem run_append (s : Handles) (acts more : List Act) :
    s.run (acts ++ more) = (s.run acts).run more :=
  List.foldl_append

/-- A handle is to the same container after any acts. -/
theorem targets_run (s : Handles) (acts : List Act) : s.targets <+: (s.run acts).targets := by
  induction acts generalizing s with
  | nil => exact List.prefix_rfl
  | cons a acts ih => exact (s.targets_act a).trans (ih (s.act a))

/-- Every container is one that calls reach, after any acts. -/
theorem reachable_run {s : Handles} (h : ∀ c ∈ s.containers, c.Reachable) (acts : List Act) :
    ∀ c ∈ (s.run acts).containers, c.Reachable := by
  induction acts generalizing s with
  | nil => exact h
  | cons a acts ih => exact ih (reachable_act h a)

/-- A container leads to what is found in its place after any acts. -/
theorem leads_run {s : Handles} {i : Nat} {c : MemoryContainer} (h : s.containers[i]? = some c)
    (acts : List Act) : ∃ c', (s.run acts).containers[i]? = some c' ∧ c.Leads c' := by
  induction acts generalizing s c with
  | nil => exact ⟨c, h, .refl c⟩
  | cons a acts ih =>
    obtain ⟨c', hc', hleads⟩ := leads_act h a
    obtain ⟨c'', hc'', hleads'⟩ := ih hc'
    exact ⟨c'', hc'', hleads.trans hleads'⟩

/-- A target that a handle has once is its target after any acts. -/
theorem target_run {s : Handles} {handle i : Nat} (h : s.targets[handle]? = some i)
    (acts : List Act) : (s.run acts).targets[handle]? = some i := by
  obtain ⟨more, hmore⟩ := s.targets_run acts
  obtain ⟨hlt, -⟩ := List.getElem?_eq_some_iff.mp h
  rw [← hmore, List.getElem?_append_left hlt]
  exact h

/-- Whatever is done with containers in memory and their handles, in any order:

* the parts of every container agree;
* a clone of a handle is to the same container, whatever is done afterwards;
* the container of a handle keeps its header and with it its streams, and its trailer and with it
  its packets;
* a request that is refused changes nothing, neither the container it is made of nor another. -/
theorem representation_kept (acts more : List Act) :
    let s := ({} : Handles).run acts
    let t := ({} : Handles).run (acts ++ more)
    (∀ c ∈ s.containers, c.WellFormed) ∧
    (∀ handle < s.targets.length,
      let u := ({} : Handles).run (acts ++ .clone handle :: more)
      u.container? s.targets.length = u.container? handle) ∧
    (∀ handle c, s.container? handle = some c → ∃ c', t.container? handle = some c' ∧ c.Leads c') ∧
    (∀ handle request reply, (s.ask handle request).1 = some reply → reply.isRefusal = true →
      (s.ask handle request).2 = s) := by
  intro s t
  refine ⟨?_, ?_, ?_, ?_⟩
  · intro c hc
    have hnone : ∀ c ∈ ({} : Handles).containers, c.Reachable := fun c hc =>
      absurd hc List.not_mem_nil
    exact (reachable_run hnone acts c hc).wellFormed
  · intro handle hlt u
    -- The clone comes last in the list of handles, and both keep their target from then on.
    obtain ⟨i, hi⟩ : ∃ i, s.targets[handle]? = some i := ⟨_, List.getElem?_eq_getElem hlt⟩
    have hclone : s.act (.clone handle) = { s with targets := s.targets ++ [i] } := by
      dsimp only [act]
      rw [hi]
    have hu : u = (s.act (.clone handle)).run more := run_append _ _ _
    have hnew : u.targets[s.targets.length]? = some i := by
      rw [hu]
      apply target_run
      rw [hclone]
      exact List.getElem?_concat_length
    have hold : u.targets[handle]? = some i := by
      rw [hu]
      apply target_run
      rw [hclone]
      dsimp only
      rw [List.getElem?_append_left hlt]
      exact hi
    unfold container?
    rw [hnew, hold]
  · intro handle c hc
    obtain ⟨i, hi, hci⟩ := Option.bind_eq_some_iff.mp hc
    have ht : t = s.run more := run_append _ _ _
    obtain ⟨c', hc', hleads⟩ := leads_run hci more
    refine ⟨c', ?_, hleads⟩
    unfold container?
    rw [ht, target_run hi more]
    exact hc'
  · intro handle request reply hreply hrefusal
    rcases s.ask_cases handle request with he | ⟨i, c, -, hc, he⟩
    · rw [he]
    · rw [he] at hreply ⊢
      obtain rfl := Option.some.inj hreply
      obtain ⟨hlt, hget⟩ := List.getElem?_eq_some_iff.mp hc
      dsimp only
      rw [ask_refused hrefusal, ← hget, List.set_getElem_self]

end Handles

end Framecast
