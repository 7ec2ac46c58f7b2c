import Framecast.Container.Memory

/-!
# The container in memory

Whatever is called of a container in memory, its parts agree (`WellFormed`): there is one last
decoding time for each stream, that of the last packet stored for it, and the packets of a stream
are stored with increasing decoding times. Each call keeps this, and a call that is refused changes
nothing.
-/

namespace Framecast.MemoryContainer

/-- The packets stored for a stream, in order. -/
def packetsOf (c : MemoryContainer) (stream : Nat) : List Packet :=
  c.packets.toList.filter fun p => p.stream = stream

/-- The container with one more packet. -/
def storing (c : MemoryContainer) (p : Packet) : MemoryContainer :=
  { c with
    lastDts := c.lastDts.setIfInBounds p.stream (some p.dts), packets := c.packets.push p }

/-- What is called of a container: its options are chosen, streams are added, packets written. -/
inductive Reachable : MemoryContainer → Prop
  /-- A new container. -/
  | new : Reachable {}
  /-- Its options are chosen. -/
  | adjusted {c : MemoryContainer} (h : Reachable c) (globalHeader : Bool)
      (maxStreams : Option Nat) (muxerTimeBase : Option Rational) :
      Reachable { c with globalHeader, maxStreams, muxerTimeBase }
  /-- A stream is added. -/
  | added {c : MemoryContainer} (h : Reachable c) (spec : StreamSpec) :
      Reachable (c.addStream spec).2
  /-- The header is written. -/
  | begun {c : MemoryContainer} (h : Reachable c) : Reachable c.writeHeader.2
  /-- A packet is written. -/
  | written {c : MemoryContainer} (h : Reachable c) (p : Packet) : Reachable (c.writePacket p).2
  /-- The trailer is written. -/
  | ended {c : MemoryContainer} (h : Reachable c) : Reachable c.writeTrailer.2

/-- The parts of a container agree. -/
structure WellFormed (c : MemoryContainer) : Prop where
  /-- There is one last decoding time for each stream. -/
  size : c.lastDts.size = c.streams.size
  /-- Every packet belongs to a stream. -/
  known : ∀ p ∈ c.packets, p.stream < c.streams.size
  /-- The last decoding time of a stream is that of its last packet. -/
  last : ∀ i < c.streams.size, c.lastDts[i]? = some ((c.packetsOf i).getLast?.map Packet.dts)
  /-- The packets of a stream have increasing decoding times. -/
  increasing : ∀ i, (c.packetsOf i).Pairwise fun p q => p.dts < q.dts
  /-- There are no packets before the header. -/
  unbegun : c.headerWritten = false → c.packets = #[]
  /-- There is no trailer before the header. -/
  begun : c.trailerWritten = true → c.headerWritten = true

/-! ## Single calls -/

/-- Adding a stream either changes nothing or appends it, with no packet yet. -/
theorem addStream_cases (c : MemoryContainer) (spec : StreamSpec) :
    c.addStream spec = (none, c) ∨
      (c.headerWritten = false ∧ c.addStream spec = (some c.streams.size,
        { c with streams := c.streams.push spec, lastDts := c.lastDts.push none })) := by
  unfold addStream
  split
  · exact .inl rfl
  · rename_i h
    simp only [Bool.or_eq_true, not_or, Bool.not_eq_true] at h
    exact .inr ⟨h.1, rfl⟩

/-- Writing the header either changes nothing or is the first time, with a stream there. -/
theorem writeHeader_cases (c : MemoryContainer) :
    (∃ f, c.writeHeader = (.error f, c)) ∨
      (c.headerWritten = false ∧ c.writeHeader = (.ok (), { c with headerWritten := true })) := by
  unfold writeHeader
  split
  · exact .inl ⟨_, rfl⟩
  · split
    · exact .inl ⟨_, rfl⟩
    · rename_i h
      exact .inr ⟨by simpa using h, rfl⟩

/-- Writing the trailer either changes nothing or is the first time, after the header. -/
theorem writeTrailer_cases (c : MemoryContainer) :
    (∃ f, c.writeTrailer = (.error f, c)) ∨
      (c.headerWritten = true ∧ c.trailerWritten = false ∧
        c.writeTrailer = (.ok (), { c with trailerWritten := true })) := by
  unfold writeTrailer
  split
  · exact .inl ⟨_, rfl⟩
  · split
    · exact .inl ⟨_, rfl⟩
    · rename_i hh ht
      exact .inr ⟨by simpa using hh, by simpa using ht, rfl⟩

/-- The trailer changes no packet. -/
theorem packets_writeTrailer (c : MemoryContainer) : c.writeTrailer.2.packets = c.packets := by
  rcases c.writeTrailer_cases with ⟨f, he⟩ | ⟨-, -, he⟩ <;> rw [he]

/-- A packet of a known stream that is decoded after the last one is stored, between header and
trailer. -/
theorem writePacket_stored {c : MemoryContainer} {p : Packet} {last : Option Int64}
    (begun : c.headerWritten = true) (open_ : c.trailerWritten = false)
    (known : c.lastDts[p.stream]? = some last) (after : ∀ t, last = some t → t < p.dts) :
    c.writePacket p = (.ok (), c.storing p) := by
  cases last with
  | none => simp [writePacket, begun, open_, known, storing]
  | some t =>
    have ht : ¬ p.dts ≤ t := Int64.not_le.mpr (after t rfl)
    simp [writePacket, begun, open_, known, ht, storing]

/-- Writing a packet either changes nothing or stores it, under these conditions. -/
theorem writePacket_cases (c : MemoryContainer) (p : Packet) :
    (∃ f, c.writePacket p = (.error f, c)) ∨
      ∃ last, c.headerWritten = true ∧ c.trailerWritten = false ∧
        c.lastDts[p.stream]? = some last ∧ (∀ t, last = some t → t < p.dts) ∧
        c.writePacket p = (.ok (), c.storing p) := by
  -- The conditions are checked in the order of the text: the container is open, the stream is
  -- known, the packet comes after the last one.
  by_cases hready : !c.headerWritten || c.trailerWritten
  · exact .inl ⟨_, by simp only [writePacket, hready, if_true]; rfl⟩
  · have ⟨hh, ht⟩ : c.headerWritten = true ∧ c.trailerWritten = false := by
      simpa using hready
    rcases hlast : c.lastDts[p.stream]? with _ | _ | t
    · exact .inl ⟨_, by simp only [writePacket, hready, hlast]; rfl⟩
    · exact .inr ⟨none, hh, ht, rfl, by simp, writePacket_stored hh ht hlast (by simp)⟩
    · by_cases hle : p.dts ≤ t
      · exact .inl ⟨_, by simp only [writePacket, hready, hlast, hle]; rfl⟩
      · have hlt : ∀ u, some t = some u → u < p.dts := by
          rintro u ⟨⟩
          exact Int64.not_le.mp hle
        exact .inr ⟨some t, hh, ht, rfl, hlt, writePacket_stored hh ht hlast hlt⟩

/-! ## Any calls -/

/-- The packets of a stream once another packet is stored. -/
theorem packetsOf_storing (c : MemoryContainer) (p : Packet) (i : Nat) :
    (c.storing p).packetsOf i = if p.stream = i then c.packetsOf i ++ [p] else c.packetsOf i := by
  unfold packetsOf storing
  by_cases h : p.stream = i <;> simp [h]

/-- The packets of a stream that was not there before: none. -/
theorem WellFormed.packetsOf_size {c : MemoryContainer} (h : c.WellFormed) :
    c.packetsOf c.streams.size = [] := by
  unfold packetsOf
  rw [List.filter_eq_nil_iff]
  intro p hp
  have hlt := h.known p (Array.mem_toList_iff.mp hp)
  simp only [decide_eq_true_eq]
  omega

/-- Adding a stream keeps the parts in agreement. -/
theorem WellFormed.addStream {c : MemoryContainer} (h : c.WellFormed) (spec : StreamSpec) :
    (c.addStream spec).2.WellFormed := by
  rcases c.addStream_cases spec with he | ⟨hh, he⟩
  · rw [he]
    exact h
  · rw [he]
    refine ⟨by simp [h.size], ?_, ?_, h.increasing, h.unbegun, h.begun⟩
    · intro p hp
      have hlt := h.known p hp
      simp only [Array.size_push]
      omega
    · intro i hi
      simp only [Array.size_push] at hi
      -- The new stream has no last packet; the others have the one that they had.
      by_cases hnew : i = c.streams.size
      · have hnone := h.packetsOf_size
        unfold packetsOf at hnone ⊢
        rw [hnew, hnone, ← h.size]
        simp
      · have hlt : i < c.streams.size := by omega
        have hlt' : i < c.lastDts.size := h.size ▸ hlt
        have hlast := h.last i hlt
        rw [Array.getElem?_eq_getElem hlt'] at hlast
        rw [Array.getElem?_push_lt hlt']
        exact hlast

/-- What is decoded after the last packet of a stream is decoded after all of them. -/
theorem WellFormed.lt_of_last {c : MemoryContainer} (h : c.WellFormed) {i : Nat}
    {last : Option Int64} {ts : Int64} (known : c.lastDts[i]? = some last)
    (after : ∀ t, last = some t → t < ts) : ∀ q ∈ c.packetsOf i, q.dts < ts := by
  obtain ⟨hlt, -⟩ := Array.getElem?_eq_some_iff.mp known
  rw [h.size] at hlt
  have hlast := h.last i hlt
  have hinc := h.increasing i
  rw [known, Option.some.injEq] at hlast
  rcases List.eq_nil_or_concat (c.packetsOf i) with hnil | ⟨before, q, hq⟩
  · simp [hnil]
  · rw [List.concat_eq_append] at hq
    rw [hq, List.pairwise_append] at hinc
    -- The last packet `q` comes before `ts`, and those before it come before `q`.
    have hqt : q.dts < ts := after q.dts (by simp [hlast, hq])
    intro a ha
    rw [hq, List.mem_append] at ha
    rcases ha with ha | ha
    · exact Int64.lt_trans (hinc.2.2 a ha q (by simp)) hqt
    · rw [List.mem_singleton.mp ha]
      exact hqt

/-- Storing a packet of a known stream that is decoded after the last one keeps the parts in
agreement. -/
theorem WellFormed.storing {c : MemoryContainer} (h : c.WellFormed) {p : Packet}
    {last : Option Int64} (begun : c.headerWritten = true)
    (known : c.lastDts[p.stream]? = some last) (after : ∀ t, last = some t → t < p.dts) :
    (c.storing p).WellFormed := by
  obtain ⟨hlt, -⟩ := Array.getElem?_eq_some_iff.mp known
  rw [h.size] at hlt
  refine ⟨by simp [MemoryContainer.storing, h.size], ?_, ?_, ?_, ?_, h.begun⟩
  · intro q hq
    rcases Array.mem_push.mp hq with hq | rfl
    · exact h.known q hq
    · exact hlt
  · intro i hi
    rw [packetsOf_storing]
    by_cases hs : p.stream = i
    · subst hs
      simp [MemoryContainer.storing, h.size, hlt]
    · rw [if_neg hs, ← h.last i hi]
      exact Array.getElem?_setIfInBounds_ne hs
  · intro i
    rw [packetsOf_storing]
    by_cases hs : p.stream = i
    · subst hs
      rw [if_pos rfl, List.pairwise_append]
      refine ⟨h.increasing _, List.pairwise_singleton .., fun q hq r hr => ?_⟩
      rw [List.mem_singleton.mp hr]
      exact h.lt_of_last known after q hq
    · rw [if_neg hs]
      exact h.increasing i
  · intro hu
    exact absurd (begun.symm.trans hu) (by decide)

/-- Whatever was called, the parts of the container agree. -/
theorem Reachable.wellFormed {c : MemoryContainer} (h : c.Reachable) : c.WellFormed := by
  induction h with
  | new =>
    exact ⟨rfl, by simp, by simp, by simp [packetsOf], by simp, by simp⟩
  | adjusted _ _ _ _ ih =>
    exact ⟨ih.size, ih.known, ih.last, ih.increasing, ih.unbegun, ih.begun⟩
  | added _ spec ih => exact ih.addStream spec
  | @begun c _ ih =>
    rcases c.writeHeader_cases with ⟨f, he⟩ | ⟨hh, he⟩
    · rw [he]
      exact ih
    · rw [he]
      exact ⟨ih.size, ih.known, ih.last, ih.increasing, by simp, by simp⟩
  | @written c _ p ih =>
    rcases c.writePacket_cases p with ⟨f, he⟩ | ⟨last, hh, -, hlast, hafter, he⟩
    · rw [he]
      exact ih
    · rw [he]
      exact ih.storing hh hlast hafter
  | @ended c _ ih =>
    rcases c.writeTrailer_cases with ⟨f, he⟩ | ⟨hh, -, he⟩
    · rw [he]
      exact ih
    · rw [he]
      exact ⟨ih.size, ih.known, ih.last, ih.increasing, ih.unbegun, fun _ => hh⟩

end Framecast.MemoryContainer
