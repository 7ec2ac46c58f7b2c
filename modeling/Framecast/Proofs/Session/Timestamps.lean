import Framecast.Proofs.Drain.Climb
import Framecast.Proofs.Session.Run
import Framecast.Proofs.Session.Sample
import Framecast.Proofs.Time.Rational

/-!
# The timestamps of a session

The frames that an encoder takes are stamped one after the other, from the last one's stamp on, and
what the encoder does not take leaves that stamp alone. So the stamps climb over the frames taken
(`Stamps`), whatever was refused in between: one submission is a climb of at most one step, and
climbs follow each other.
-/

namespace Framecast

open Journaled

variable {ε κ : Type} [Encoder ε] [Container κ]

/-- A session that has just started counts microseconds. -/
theorem SessionBuilder.timeBase_of_start {b : SessionBuilder ε κ} {width height : UInt32}
    {format : SurfaceFormat} {now : Instant} {s : Session ε κ}
    (h : (b.start width height format now).value = .session s) :
    s.bound.config.timeBase = .microsecond := by
  have hs := b.start_startedBy width height format now
  rw [h] at hs
  generalize (b.start width height format now).calls = calls at hs
  cases hs with
  | @started _ _ bound _ _ _ binds _ _ =>
    obtain ⟨device, config, hplans, hbound⟩ := binds.bound
    obtain ⟨name, rfl⟩ := plan_of_configure hplans.configured
    have hb := b.backend.bind_boundBy device ((b.request width height).plan name) format.pixelFormat
    rw [hbound] at hb
    generalize (b.backend.bind device _ format.pixelFormat).calls = calls at hb
    cases hb with
    | bound _ _ _ => rfl

namespace Session

/-- The frames that the encoder takes, of those that are submitted one after the other. -/
def encodedOf (s : Session ε κ) : List CapturedFrame → List CapturedFrame
  | [] => []
  | f :: fs =>
    if (s.submit f).calls.filterMap Call.sent? = [] then (s.submit f).value.2.encodedOf fs
    else f :: (s.submit f).value.2.encodedOf fs

/-- From one session to another, the encoder takes these frames under these stamps, by these
calls. -/
structure Stamps (s : Session ε κ) (encoded : List CapturedFrame) (stamps : List Int64)
    (calls : List Call) (s' : Session ε κ) : Prop where
  /-- The frames are sent under the stamps. -/
  sent : calls.filterMap Call.sent? = List.zipWith surface encoded stamps
  /-- The stamps climb over the capture times, from the last frame's stamp on. -/
  climbs : stamps.map Int64.toInt =
    climb (s.lastPts.map Int64.toInt) (encoded.map fun f => (s.ticks f).toInt)
  /-- The last of them is kept. -/
  last : s'.lastPts = stamps.getLast?.or s.lastPts
  /-- The encoder's parameters do not change. -/
  config : s'.bound.config = s.bound.config

variable {s s' s'' : Session ε κ} {f : CapturedFrame} {calls more : List Call}

omit [Encoder ε] [Container κ] in
/-- Sessions with the same parameters count time alike. -/
theorem ticks_congr (config : s'.bound.config = s.bound.config) : s'.ticks = s.ticks := by
  funext g
  unfold ticks
  rw [config]

omit [Encoder ε] [Container κ] in
/-- There is a stamp for each frame. -/
theorem Stamps.length_eq {encoded : List CapturedFrame} {stamps : List Int64}
    (h : s.Stamps encoded stamps calls s') : stamps.length = encoded.length := by
  have hlength := congrArg List.length h.climbs
  rw [List.length_map, length_climb, List.length_map] at hlength
  exact hlength

omit [Encoder ε] [Container κ] in
/-- The stamps are those of the frames sent. -/
theorem Stamps.pts_eq {encoded : List CapturedFrame} {stamps : List Int64}
    (h : s.Stamps encoded stamps calls s') :
    (calls.filterMap Call.sent?).map SurfaceFrame.pts = stamps := by
  rw [h.sent, List.map_zipWith, ← List.map_uncurry_zip_eq_zipWith]
  -- The stamp of a surface is the one that it was made with.
  exact List.map_snd_zip h.length_eq.le

omit [Encoder ε] [Container κ] in
/-- No frame is taken by calls that send none and leave the last stamp alone. -/
theorem Stamps.none (sent : calls.filterMap Call.sent? = []) (last : s'.lastPts = s.lastPts)
    (config : s'.bound.config = s.bound.config) : s.Stamps [] [] calls s' :=
  ⟨sent, rfl, last, config⟩

omit [Encoder ε] [Container κ] in
/-- One frame may be taken before others. -/
theorem Stamps.cons {pts : Int64} {encoded : List CapturedFrame} {stamps : List Int64}
    (sent : calls.filterMap Call.sent? = [surface f pts])
    (stamp : nextStamp s.lastPts (s.ticks f) = .ok pts) (last : s'.lastPts = some pts)
    (config : s'.bound.config = s.bound.config) (rest : s'.Stamps encoded stamps more s'') :
    s.Stamps (f :: encoded) (pts :: stamps) (calls ++ more) s'' := by
  constructor
  · rw [List.filterMap_append, sent, rest.sent]
    rfl
  · have hrest := rest.climbs
    rw [last, ticks_congr config] at hrest
    rw [List.map_cons, List.map_cons, hrest, climb, ← toInt_nextStamp stamp]
    rfl
  · rw [rest.last, last, List.getLast?_cons]
    cases stamps.getLast? <;> rfl
  · rw [rest.config, config]

omit [Encoder ε] [Container κ] in
/-- A submission that sends nothing may come before others. -/
theorem Stamps.skip {encoded : List CapturedFrame} {stamps : List Int64}
    (sent : calls.filterMap Call.sent? = []) (last : s'.lastPts = s.lastPts)
    (config : s'.bound.config = s.bound.config) (rest : s'.Stamps encoded stamps more s'') :
    s.Stamps encoded stamps (calls ++ more) s'' := by
  constructor
  · rw [List.filterMap_append, sent, rest.sent]
    rfl
  · rw [rest.climbs, last, ticks_congr config]
  · rw [rest.last, last]
  · rw [rest.config, config]

/-- A submission sends nothing and leaves the last stamp alone, or it sends the frame under the next
stamp and keeps that. -/
theorem Submitted.sent_cases {answer : Answer} (h : s.Submitted f calls answer s') :
    s'.bound.config = s.bound.config ∧
      (calls.filterMap Call.sent? = [] ∧ s'.lastPts = s.lastPts ∨
        ∃ pts, nextStamp s.lastPts (s.ticks f) = .ok pts ∧
          calls.filterMap Call.sent? = [surface f pts] ∧ s'.lastPts = some pts) := by
  cases h with
  | refused _ => exact ⟨rfl, .inl ⟨rfl, rfl⟩⟩
  | unsent _ _ => exact ⟨rfl, .inl ⟨rfl, rfl⟩⟩
  | @drained pts _ cycle _ accepts _ cycled =>
    refine ⟨rfl, .inr ⟨pts, accepts.stamp, ?_, rfl⟩⟩
    have hcycle := unsent_of_transfers cycled.transfers
    simp [Call.sent?, hcycle]

/-- The frames that the encoder takes in a run climb, whatever happens in between. The induction is
on the frames submitted; a frame that is not taken leaves the climb where it was. -/
theorem submitAll_stamps (s : Session ε κ) (fs : List CapturedFrame) :
    ∃ stamps, s.Stamps (s.encodedOf fs) stamps (s.submitAll fs).calls (s.submitAll fs).value.2 := by
  induction fs generalizing s with
  | nil => exact ⟨[], .none rfl rfl rfl⟩
  | cons f fs ih =>
    obtain ⟨stamps, hrest⟩ := ih (s.submit f).value.2
    have hcalls : (s.submitAll (f :: fs)).calls =
        (s.submit f).calls ++ ((s.submit f).value.2.submitAll fs).calls := by
      simp [submitAll]
    have hvalue : (s.submitAll (f :: fs)).value.2 =
        ((s.submit f).value.2.submitAll fs).value.2 := rfl
    rw [hcalls, hvalue]
    obtain ⟨hconfig, ⟨hnone, hlast⟩ | ⟨pts, hstamp, hsent, hlast⟩⟩ :=
      (s.submit_submitted f).sent_cases
    · have hencoded : s.encodedOf (f :: fs) = (s.submit f).value.2.encodedOf fs := by
        simp [encodedOf, hnone]
      rw [hencoded]
      exact ⟨stamps, hrest.skip hnone hlast hconfig⟩
    · have hencoded : s.encodedOf (f :: fs) = f :: (s.submit f).value.2.encodedOf fs := by
        simp [encodedOf, hsent]
      rw [hencoded]
      exact ⟨pts :: stamps, hrest.cons hsent hstamp hlast hconfig⟩

/-- Stamps that climb over capture times in microseconds run ahead of them by less than their
number. -/
theorem lt_of_climbs {encoded : List CapturedFrame} {stamps : List Int64}
    (climbs : stamps.map Int64.toInt = climb none
      (encoded.map fun f => (Rational.microsecond.ticks f.timestamp.sinceStart).toInt))
    {t : Int64} (h : t ∈ stamps) : t.toInt < 2 ^ 54 + encoded.length := by
  have hmem : t.toInt ∈ stamps.map Int64.toInt := List.mem_map_of_mem h
  rw [climbs] at hmem
  have hbounded : ∀ w ∈ encoded.map fun f =>
      (Rational.microsecond.ticks f.timestamp.sinceStart).toInt, w ≤ 2 ^ 54 := by
    intro w hw
    obtain ⟨f, -, rfl⟩ := List.mem_map.mp hw
    exact (Rational.ticks_microsecond_lt _).le
  have hlt := climb_lt hbounded hmem
  rw [List.length_map] at hlt
  exact hlt

/-- The frames of a session that the encoder takes are stamped in strictly increasing order,
whatever is refused between them. Stamp number `k` is the greatest of the capture times, in
microseconds, of the frames taken up to it, each counted one tick later for every frame taken since.
No stamp overflows before `2^62` frames are taken. -/
theorem timestamps_climb {b : SessionBuilder ε κ} {width height : UInt32} {format : SurfaceFormat}
    {start : Instant} (started : (b.start width height format start).value = .session s)
    (fs : List CapturedFrame) :
    let encoded := s.encodedOf fs
    let ran := s.submitAll fs
    let stamps := (ran.calls.filterMap Call.sent?).map SurfaceFrame.pts
    ran.calls.filterMap Call.sent? = List.zipWith surface encoded stamps ∧
      stamps.length = encoded.length ∧
      stamps.Pairwise (· < ·) ∧
      (∀ (k : Nat) (pts : Int64), stamps[k]? = some pts →
        IsGreatest
          {x | ∃ (j : Nat) (f : CapturedFrame), j ≤ k ∧ encoded[j]? = some f ∧
            x = (Rational.microsecond.ticks f.timestamp.sinceStart).toInt + ((k : Int) - j)}
          pts.toInt) ∧
      (encoded.length < 2 ^ 62 →
        ∀ f, ∃ pts, nextStamp ran.value.2.lastPts (ran.value.2.ticks f) = .ok pts) := by
  intro encoded ran stamps
  obtain ⟨stamps', hstamps⟩ := s.submitAll_stamps fs
  obtain rfl : stamps = stamps' := hstamps.pts_eq
  -- The session is fresh, and counts microseconds.
  have hlast : s.lastPts = none := (SessionBuilder.fresh_of_start started).lastPts
  have hclimb : stamps.map Int64.toInt = climb none
      (encoded.map fun f => (Rational.microsecond.ticks f.timestamp.sinceStart).toInt) := by
    have h := hstamps.climbs
    unfold ticks at h
    rw [hlast, SessionBuilder.timeBase_of_start started] at h
    exact h
  refine ⟨hstamps.sent, hstamps.length_eq, ?_, ?_, ?_⟩
  · have hpairwise := climb_pairwise none
      (encoded.map fun f => (Rational.microsecond.ticks f.timestamp.sinceStart).toInt)
    rw [← hclimb, List.pairwise_map] at hpairwise
    exact hpairwise.imp Int64.lt_iff_toInt_lt.mpr
  · intro k pts hk
    have hkth : (climb none (encoded.map fun f =>
        (Rational.microsecond.ticks f.timestamp.sinceStart).toInt))[k]? = some pts.toInt := by
      rw [← hclimb, List.getElem?_map, hk]
      rfl
    have hgreatest := climb_isGreatest hkth
    simpa using hgreatest
  · intro hfew f
    apply nextStamp_ok
    intro t ht
    -- The last stamp is one of those given, if there is one.
    have hmem : t ∈ stamps := by
      rw [hstamps.last, hlast, Option.or_none] at ht
      exact List.mem_of_getLast? ht
    have hlt := lt_of_climbs hclimb hmem
    omega

/-- Of four frames the encoder takes three, since the second has no surface. The next one was taken
as late as the first, and the last one earlier, so that each is stamped one tick after the one
before. -/
theorem timestamps_climb_sample :
    let fs :=
      [sampleFrame (.ofNanos 5000000), { sampleFrame (.ofNanos 6000000) with address := 0 },
        sampleFrame (.ofNanos 5000000), sampleFrame (.ofNanos 4000000)]
    let encoded :=
      [sampleFrame (.ofNanos 5000000), sampleFrame (.ofNanos 5000000),
        sampleFrame (.ofNanos 4000000)]
    let ran := sampleSession.submitAll fs
    sampleSession.encodedOf fs = encoded ∧
      ran.calls.filterMap Call.sent? = List.zipWith surface encoded [5000, 5001, 5002] ∧
      [5000, 5001, 5002].Pairwise (· < · : Int64 → Int64 → Prop) ∧
      IsGreatest
        {x | ∃ (j : Nat) (f : CapturedFrame), j ≤ 2 ∧ encoded[j]? = some f ∧
          x = (Rational.microsecond.ticks f.timestamp.sinceStart).toInt + ((2 : Nat) - j)}
        5002 ∧
      ∀ f, ∃ pts, nextStamp ran.value.2.lastPts (ran.value.2.ticks f) = .ok pts := by
  intro fs encoded ran
  have hencoded : sampleSession.encodedOf fs = encoded := by cbv
  have hstamps : (ran.calls.filterMap Call.sent?).map SurfaceFrame.pts = [5000, 5001, 5002] := by
    cbv
  have h := timestamps_climb sampleBuilder_starts fs
  rw [hencoded] at h
  dsimp only at h
  rw [hstamps] at h
  obtain ⟨hsent, -, hpairwise, hgreatest, hfits⟩ := h
  exact ⟨hencoded, hsent, hpairwise, hgreatest 2 5002 rfl, hfits (by decide)⟩

end Session

end Framecast
