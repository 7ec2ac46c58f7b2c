import Framecast.Proofs.Engine.LiveSession

/-!
# The sessions in the life of an engine

An engine begins, takes steps, and is let go at some point, live or not (`life`). Each session that
is launched on the way is served until its end (`Served`): it goes on as it is, and then the source
is stopped and the pipeline finished, once each, or both are let go as they are because the loop
broke down. One session is over before the next one is launched (`Chronicle`).

A chronicle is told along the occasions in the life of its engine (`occasions`): on each of them
some session is launched, or goes on, or is ended, or there is none. So the loop of a session takes
its turns when the engine does, with the counters that the session has by then.

The engine holds the loop of the session that it serves, and holds none otherwise (`Serves`); a step
keeps that, whatever it does, and a run with it.
-/

namespace Framecast

open Journaled

/-- What became of a launch. -/
inductive Fate
  /-- No session started. -/
  | unstarted (e : SessionError)
  /-- The loop returned for this reason, and the session was finished with this answer. -/
  | finished (reason : StopReason) (result : Except Overflow (Except SessionError SessionSummary))
  /-- The loop broke down. -/
  | broken

/-- An engine that serves nobody launches nothing on this occasion: it is not asked for a session,
or not for one that there can be. -/
def Occasion.isIdle : Occasion → Bool
  | .step (.command (.start config), _) => !config.validate.isOk
  | _ => true

/-- An engine that serves nobody launches nothing unless it is told to start a session. -/
theorem Occasion.isIdle_of_ne_start {st : Step} {now : Instant}
    (other : ∀ config, st ≠ .command (.start config)) :
    (Occasion.step (st, now)).isIdle = true := by
  unfold isIdle
  split
  · rename_i config _ h
    cases h
    exact absurd rfl (other config)
  · rfl

namespace Engine

variable {ℓ σ π : Type} [FrameSource σ] [Pipeline π]

/-- How a session is served from when it is live to its end, on these occasions and by these calls,
and what becomes of it. -/
inductive Served (first : LiveSession σ π) : List Occasion → List Call → Fate → Prop
  /-- The source is stopped and let go, then the pipeline is finished. -/
  | finished {past : List Occasion} {calls : List Call} {s : LiveSession σ π} {reason : StopReason}
      {st : Step} {now : Instant} (loops : first.Loops past calls s)
      (returned : s.loop.lastEnd = .returned reason)
      (ended : s.isEndedBy (.step (st, now)) = true) :
      Served first (past ++ [.step (st, now)])
        (calls ++ (.stopSource (FrameSource.stop s.loop.source).1 :: .release .source ::
          .finish :: (Pipeline.finish s.loop.pipeline now).calls ++ [.release .pipeline]))
        (.finished reason (Pipeline.finish s.loop.pipeline now).value)
  /-- The engine is let go: the source is stopped, the pipeline finished, and the source let go. -/
  | dropped {past : List Occasion} {calls : List Call} {s : LiveSession σ π} {reason : StopReason}
      {now : Instant} (loops : first.Loops past calls s)
      (returned : s.loop.lastEnd = .returned reason) :
      Served first (past ++ [.release now])
        (calls ++ (.stopSource (FrameSource.stop s.loop.source).1 :: .finish ::
          (Pipeline.finish s.loop.pipeline now).calls ++ [.release .pipeline, .release .source]))
        (.finished reason (Pipeline.finish s.loop.pipeline now).value)
  /-- The loop has broken down and let go of the pipeline and of the source. This is noticed
  now. -/
  | broken {past : List Occasion} {calls : List Call} {s : LiveSession σ π} {x : Occasion}
      (wrecked : first.Wrecked past calls s) (ended : s.isEndedBy x = true) :
      Served first (past ++ [x]) calls .broken

variable [Launcher ℓ σ π]

/-- The launches of an engine one after the other, each with its calls and what became of it, along
the occasions in its life. Each session that was launched is over. -/
inductive Chronicle (launcher : ℓ) : List Occasion → List (List Call × Fate) → ℓ → Prop
  /-- Nothing has happened. -/
  | none : Chronicle launcher [] [] launcher
  /-- There was no launch. -/
  | rested {past : List Occasion} {chapters : List (List Call × Fate)} {l : ℓ} {x : Occasion}
      (before : Chronicle launcher past chapters l) (idle : x.isIdle = true) :
      Chronicle launcher (past ++ [x]) chapters l
  /-- A launch failed. -/
  | failed {past : List Occasion} {chapters : List (List Call × Fate)} {l l' : ℓ}
      {config : SessionConfig} {now : Instant} {x : SessionError}
      (before : Chronicle launcher past chapters l) (valid : config.validate = .ok ())
      (answer : (Launcher.launch l config now).value = (.error x, l')) :
      Chronicle launcher (past ++ [.step (.command (.start config), now)])
        (chapters ++ [(launchCalls l config now, .unstarted x)]) l'
  /-- A session was launched, and served until its end. -/
  | served {past during : List Occasion} {chapters : List (List Call × Fate)} {career : List Call}
      {fate : Fate} {l l' : ℓ} {config : SessionConfig} {now : Instant} {launched : Launched σ π}
      (before : Chronicle launcher past chapters l) (valid : config.validate = .ok ())
      (answer : (Launcher.launch l config now).value = (.ok launched, l'))
      (served : Served (.begun launched config now) during career fate) :
      Chronicle launcher (past ++ .step (.command (.start config), now) :: during)
        (chapters ++ [(launchCalls l config now ++ career, fate)]) l'

/-- Whom an engine serves between two steps, after these occasions and calls. -/
inductive Serves (launcher : ℓ) : List Occasion → List Call → Engine ℓ σ π → Prop
  /-- Nobody. -/
  | free {past : List Occasion} {chapters : List (List Call × Fate)} {e : Engine ℓ σ π}
      (capture : e.capture = none) (told : Chronicle launcher past chapters e.launcher) :
      Serves launcher past (chapters.flatMap Prod.fst) e
  /-- The session that it launched last, be it that its loop has broken down. -/
  | live {past during : List Occasion} {chapters : List (List Call × Fate)} {career : List Call}
      {e : Engine ℓ σ π} {s : LiveSession σ π} {l : ℓ} {config : SessionConfig} {now : Instant}
      {launched : Launched σ π} (holds : e.Holds s) (told : Chronicle launcher past chapters l)
      (valid : config.validate = .ok ())
      (answer : (Launcher.launch l config now).value = (.ok launched, e.launcher))
      (stands : (LiveSession.begun launched config now).Stands during career s) :
      Serves launcher (past ++ .step (.command (.start config), now) :: during)
        (chapters.flatMap Prod.fst ++ (launchCalls l config now ++ career)) e

/-! ## Steps -/

section Step

variable {launcher : ℓ} {past : List Occasion} {chapters : List (List Call × Fate)}
  {calls more : List Call} {events : List Event} {e e' : Engine ℓ σ π} {now : Instant}
  {r : Except Overflow Unit × Engine ℓ σ π}

omit [Launcher ℓ σ π] in
/-- Taking a session down makes the calls of its end, whatever becomes of the engine, and leaves the
launcher and the capture loop alone. -/
theorem TakesDown.kept {l : CaptureLoop σ π} {reason : StopReason}
    (h : e.TakesDown l reason now more events r) :
    more = l.takeDownCalls now ∧ r.2.launcher = e.launcher ∧ r.2.capture = e.capture := by
  cases h with
  | overflowed => exact ⟨rfl, rfl, rfl⟩
  | unfigured => exact ⟨rfl, rfl, rfl⟩
  | concluded => exact ⟨rfl, rfl, rfl⟩

omit [Launcher ℓ σ π] in
/-- Ending a session lets go of the capture loop. -/
theorem Ends.capture (h : e.Ends now more events r) : r.2.capture = none := by
  cases h with
  | free capture => exact capture
  | lost => rfl
  | returned _ _ down => exact down.kept.2.2

omit [Launcher ℓ σ π] in
/-- Stopping on command lets go of a capture loop by ending its session. -/
theorem Stops.ends_of_held (h : e.Stops now more events r) {l : CaptureLoop σ π}
    (held : e.capture = some l) (dropped : r.2.capture = none) : e.Ends now more events r := by
  cases h with
  | cleared => exact absurd (held.symm.trans dropped) (by simp)
  | ignored => exact absurd (held.symm.trans dropped) (by simp)
  | ended _ ends => exact ends

omit [Launcher ℓ σ π] in
/-- Stopping on command keeps the capture loop or lets go of it. -/
theorem Stops.capture_cases (h : e.Stops now more events r) :
    r.2.capture = e.capture ∨ r.2.capture = none := by
  cases h with
  | cleared => exact .inl rfl
  | ignored => exact .inl rfl
  | ended _ ends => exact .inr ends.capture

/-- A step that is no turn keeps the capture loop, lets go of it, or launches another one. -/
theorem Acts.capture_cases {s : Step} {x : Verdict × Engine ℓ σ π} (h : e.Acts now s more events x)
    (other : s ≠ .turn) :
    x.2.capture = e.capture ∨ x.2.capture = none ∨
      e.isBusy = false ∧ ∃ launched config, x.2.capture = some (begun launched config now) := by
  cases h with
  | started starts =>
    cases starts with
    | ignored => exact .inl rfl
    | rejected => exact .inl rfl
    | failed => exact .inl rfl
    | launched free => exact .inr (.inr ⟨free, _, _, rfl⟩)
  | stopped stops =>
    rw [snd_goOn]
    exact stops.capture_cases.imp_right .inl
  | asked => exact .inl rfl
  | closed _ stops => exact stops.capture_cases.imp_right .inl
  | crashed _ stops => exact stops.capture_cases.imp_right .inl
  | tended tends =>
    rw [snd_goOn]
    cases tends with
    | noticed _ ends => exact .inr (.inl ends.capture)
    | quiet => exact .inl rfl
    | unfigured => exact .inl rfl
    | reported => exact .inl rfl
  | unheld => exact absurd rfl other
  | turned => exact absurd rfl other
  | broke => exact absurd rfl other

/-- A step that lets go of a capture loop ends its session, and tells what is told then and at most
that the engine is down. A loop that runs is let go of on command. -/
theorem Acts.ends_of_held {s : Step} {x : Verdict × Engine ℓ σ π} (h : e.Acts now s more events x)
    {l : CaptureLoop σ π} (held : e.capture = some l) (dropped : x.2.capture = none) :
    ∃ shown last r, e.Ends now more shown r ∧ events = shown ++ last ∧
      (last = [] ∨ last = [.shutdown]) ∧ x.2.state = r.2.state ∧
      (∀ o, x.1 = .failed o ↔ r.1 = .error o) ∧
      (l.ended = none → s = .command .stop ∨ (farewell? s).isSome = true) := by
  -- Whatever keeps the capture loop is excluded by what became of it.
  have hheld : e.capture ≠ none := by simp [held]
  have hgoOn : ∀ r : Except Overflow Unit × Engine ℓ σ π,
      ∀ o, (goOn r).1 = .failed o ↔ r.1 = .error o := by
    rintro ⟨x | u, e'⟩ o <;> simp [goOn]
  cases h with
  | started starts =>
    cases starts with
    | ignored => exact absurd dropped hheld
    | rejected => exact absurd dropped hheld
    | failed => exact absurd dropped hheld
    | launched => cases dropped
  | @stopped _ _ r stops =>
    rw [snd_goOn] at dropped ⊢
    exact ⟨_, [], r, stops.ends_of_held held dropped, (List.append_nil _).symm, .inl rfl, rfl,
      hgoOn r, fun _ => .inl rfl⟩
  | asked => exact absurd dropped hheld
  | @closed _ last _ _ e' o farewell stops =>
    have hlast : last = [] ∨ last = [.shutdown] := by
      obtain ⟨-, rfl⟩ | ⟨-, rfl⟩ := farewell_cases farewell
      · exact .inr rfl
      · exact .inl rfl
    exact ⟨_, last, _, stops.ends_of_held held dropped, rfl, hlast, rfl, by simp,
      fun _ => .inr (by rw [farewell]; rfl)⟩
  | crashed farewell stops =>
    exact ⟨_, [], _, stops.ends_of_held held dropped, (List.append_nil _).symm, .inl rfl, rfl,
      by simp, fun _ => .inr (by rw [farewell]; rfl)⟩
  | @tended _ _ r tends =>
    rw [snd_goOn] at dropped ⊢
    cases tends with
    | noticed dead ends =>
      refine ⟨_, [], r, ends, (List.append_nil _).symm, .inl rfl, rfl, hgoOn r, fun running => ?_⟩
      simp [isOver, held, running] at dead
    | quiet => exact absurd dropped hheld
    | unfigured => exact absurd dropped hheld
    | reported => exact absurd dropped hheld
  | unheld capture => exact absurd capture hheld
  | turned => cases dropped
  | broke => cases dropped

omit [FrameSource σ] [Pipeline π] [Launcher ℓ σ π] in
/-- A settled engine that is free to start a session holds no capture loop. -/
theorem Settled.capture_of_free (h : e.Settled) (free : e.isBusy = false) : e.capture = none := by
  simp only [isBusy, Bool.or_eq_false_iff] at free
  exact h.capture_eq_none free.1.2

omit [FrameSource σ] [Pipeline π] [Launcher ℓ σ π] in
/-- Between two steps, only a live session keeps an engine from starting one. -/
theorem Settled.isBusy_eq (settled : e.Settled) : e.isBusy = e.state.isLive := by
  unfold isBusy
  cases hs : e.state with
  | starting phase => simpa [hs, SessionState.isIdle, SessionState.isLive, SessionState.isError]
      using settled.rests
  | stopping reason phase => simpa [hs, SessionState.isIdle, SessionState.isLive,
      SessionState.isError] using settled.rests
  | _ => rfl

omit [Launcher ℓ σ π] in
/-- Ending the session of an engine that holds none is nothing. -/
theorem Ends.rested (h : e.Ends now more events r) (capture : e.capture = none) :
    more = [] ∧ r.2.capture = none ∧ r.2.launcher = e.launcher := by
  cases h with
  | free => exact ⟨rfl, capture, rfl⟩
  | lost held => simp [capture] at held
  | returned held => simp [capture] at held

omit [Launcher ℓ σ π] in
/-- Stopping an engine that holds no session is no more. -/
theorem Stops.rested (h : e.Stops now more events r) (capture : e.capture = none) :
    more = [] ∧ r.2.capture = none ∧ r.2.launcher = e.launcher := by
  cases h with
  | cleared => exact ⟨rfl, capture, rfl⟩
  | ignored => exact ⟨rfl, capture, rfl⟩
  | ended _ ends => exact ends.rested capture

/-- An engine that holds no session rests, unless it is told to start one. -/
theorem Acts.rested {st : Step} {x : Verdict × Engine ℓ σ π} (h : e.Acts now st more events x)
    (capture : e.capture = none) (other : ∀ config, st ≠ .command (.start config)) :
    more = [] ∧ x.2.capture = none ∧ x.2.launcher = e.launcher := by
  cases h with
  | started => exact absurd rfl (other _)
  | stopped stops =>
    rw [snd_goOn]
    exact stops.rested capture
  | asked => exact ⟨rfl, capture, rfl⟩
  | closed _ stops => exact stops.rested capture
  | crashed _ stops => exact stops.rested capture
  | tended tends =>
    rw [snd_goOn]
    cases tends with
    | noticed _ ends => exact ends.rested capture
    | quiet => exact ⟨rfl, capture, rfl⟩
    | unfigured => exact ⟨rfl, capture, rfl⟩
    | reported => exact ⟨rfl, capture, rfl⟩
  | unheld => exact ⟨rfl, capture, rfl⟩
  | turned held => simp [capture] at held
  | broke held => simp [capture] at held

/-- An engine that holds no session starts one if it is told to, unless it cannot. -/
theorem Starts.serves {config : SessionConfig} (h : e.Starts config now more events e')
    (settled : e.Settled) (capture : e.capture = none)
    (told : Chronicle launcher past chapters e.launcher) :
    Serves launcher (past ++ [.step (.command (.start config), now)])
      (chapters.flatMap Prod.fst ++ more) e' := by
  cases h with
  | ignored busy =>
    rw [settled.isBusy_eq, ← settled.held, capture] at busy
    cases busy
  | rejected _ invalid =>
    rw [List.append_nil]
    have hidle : (Occasion.step (.command (.start config), now)).isIdle = true := by
      simp [Occasion.isIdle, invalid, Except.isOk, Except.toBool]
    exact .free capture (told.rested hidle)
  | @failed x l o _ valid answer =>
    have hcalls : chapters.flatMap Prod.fst ++ launchCalls e.launcher config now =
        (chapters ++ [(launchCalls e.launcher config now, Fate.unstarted x)]).flatMap Prod.fst := by
      simp
    rw [hcalls]
    exact .free capture (told.failed valid answer)
  | launched _ valid answer =>
    rw [← List.append_nil (launchCalls _ _ _)]
    exact .live ⟨rfl, rfl, rfl, rfl⟩ told valid answer (.inl .start)

variable {first s : LiveSession σ π} {x : Occasion}

omit [Launcher ℓ σ π] in
/-- Ending the session of an engine ends how it is served. -/
theorem Ends.served (h : e.Ends now more events r) (holds : e.Holds s)
    (stands : first.Stands past calls s) (unbroken : first.loop.ended ≠ some .broken) {st : Step}
    (ended : s.isEndedBy (.step (st, now)) = true) :
    r.2.launcher = e.launcher ∧
      ∃ fate, Served first (past ++ [.step (st, now)]) (calls ++ more) fate := by
  cases h with
  | free capture => simp [holds.capture] at capture
  | lost capture broken =>
    obtain rfl := Option.some.inj (holds.capture.symm.trans capture)
    rw [List.append_nil]
    exact ⟨rfl, _, .broken (stands.wrecked unbroken broken) ended⟩
  | returned capture returned down =>
    obtain rfl := Option.some.inj (holds.capture.symm.trans capture)
    obtain ⟨rfl, hlauncher, -⟩ := down.kept
    exact ⟨hlauncher, _, .finished (stands.loops returned) returned ended⟩

omit [Launcher ℓ σ π] in
/-- So does letting go of the engine. -/
theorem Drops.served (h : e.Drops now more events e') (holds : e.Holds s)
    (stands : first.Stands past calls s) (unbroken : first.loop.ended ≠ some .broken) :
    e'.launcher = e.launcher ∧
      ∃ fate, Served first (past ++ [.release now]) (calls ++ more) fate := by
  cases h with
  | free capture => simp [holds.capture] at capture
  | lost capture broken =>
    obtain rfl := Option.some.inj (holds.capture.symm.trans capture)
    rw [List.append_nil]
    exact ⟨rfl, _, .broken (stands.wrecked unbroken broken) rfl⟩
  | returned capture returned =>
    obtain rfl := Option.some.inj (holds.capture.symm.trans capture)
    exact ⟨rfl, _, .dropped (stands.loops returned) returned⟩

/-- A step of a settled engine keeps how it serves its sessions. -/
theorem Serves.step (h : Serves launcher past calls e) (settled : e.Settled) (st : Step)
    (now : Instant) :
    Serves launcher (past ++ [.step (st, now)]) (calls ++ (e.step st now).calls)
      (e.step st now).value.2 := by
  cases h with
  | free capture told =>
    have hacts := e.step_acts st now
    -- Only a command to start a session can end the rest of an engine that serves nobody.
    by_cases hstart : ∃ config, st = .command (.start config)
    · obtain ⟨config, rfl⟩ := hstart
      generalize (e.step (.command (.start config)) now).calls = more,
        (e.step (.command (.start config)) now).events = events,
        (e.step (.command (.start config)) now).value = x at hacts ⊢
      cases hacts with
      | started starts => exact starts.serves settled capture told
      | closed farewell => cases farewell
      | crashed farewell => cases farewell
    · have hother := not_exists.mp hstart
      obtain ⟨hcalls, hcapture, hlauncher⟩ := hacts.rested capture hother
      rw [hcalls, List.append_nil]
      rw [← hlauncher] at told
      exact .free hcapture (told.rested (Occasion.isIdle_of_ne_start hother))
  | @live past during chapters career _ s l config start launched holds told valid answer stands =>
    have hunbroken := LiveSession.begun_unbroken launched config start
    rw [List.append_assoc, List.append_assoc, List.append_assoc, List.cons_append]
    -- The session lives through the step, or is over with it.
    cases hended : s.isEndedBy (.step (st, now)) with
    | false =>
      obtain ⟨hcalls, hholds, hlauncher⟩ := holds.step settled hended
      rw [← hlauncher] at answer
      rw [hcalls]
      exact .live hholds told valid answer (stands.after hunbroken hended)
    | true =>
      obtain ⟨shown, r, ends, hcapture, hlauncher⟩ := holds.ends settled hended
      obtain ⟨hkept, fate, hserved⟩ := ends.served holds stands hunbroken hended
      rw [← hkept, ← hlauncher] at answer
      have h := Serves.free (hcapture.trans ends.capture) (told.served valid answer hserved)
      simpa using h

/-- Letting go of an engine ends how it serves its session. -/
theorem Serves.dropped (h : Serves launcher past calls e) (last : Instant) :
    ∃ chapters,
      Chronicle launcher (past ++ [.release last]) chapters (e.release last).value.launcher ∧
      calls ++ (e.release last).calls = chapters.flatMap Prod.fst := by
  have hdrops := e.release_drops last
  generalize (e.release last).calls = more, (e.release last).events = events,
    (e.release last).value = e' at hdrops ⊢
  cases h with
  | free capture told =>
    cases hdrops with
    | free => exact ⟨_, told.rested rfl, List.append_nil _⟩
    | lost held => simp [capture] at held
    | returned held => simp [capture] at held
  | @live past during chapters career _ s l config start launched holds told valid answer stands =>
    have hunbroken := LiveSession.begun_unbroken launched config start
    obtain ⟨hkept, fate, hserved⟩ := hdrops.served holds stands hunbroken
    rw [← hkept] at answer
    have htold := told.served valid answer hserved
    rw [List.append_assoc]
    exact ⟨_, htold, by simp⟩

/-- An engine that holds no session has told of all that it launched. -/
theorem Serves.told (h : Serves launcher past calls e) (capture : e.capture = none) :
    ∃ chapters, Chronicle launcher past chapters e.launcher := by
  cases h with
  | free _ told => exact ⟨_, told⟩
  | live holds => simp [holds.capture] at capture

end Step

/-! ## Lives -/

/-- The steps that an engine takes: all of them, unless it ends before. -/
def taken (e : Engine ℓ σ π) : List (Step × Instant) → List (Step × Instant)
  | [] => []
  | (s, now) :: rest =>
    (s, now) :: match (e.step s now).value with
      | (.waiting, e) => e.taken rest
      | _ => []

/-- What every step of a settled engine keeps, a run keeps. -/
theorem run_takes {I : List (Step × Instant) → List Call → Engine ℓ σ π → Prop}
    (keeps : ∀ {past : List (Step × Instant)} {calls : List Call} {e : Engine ℓ σ π}, e.Settled →
      I past calls e → ∀ s now,
        I (past ++ [(s, now)]) (calls ++ (e.step s now).calls) (e.step s now).value.2)
    (past : List (Step × Instant)) {calls : List Call} {e : Engine ℓ σ π} (settled : e.Settled)
    (h : I past calls e) (steps : List (Step × Instant)) :
    I (past ++ e.taken steps) (calls ++ (e.run steps).calls) (e.run steps).value.2 := by
  induction steps generalizing past calls e with
  | nil =>
    rw [run, taken, calls_pure, List.append_nil, List.append_nil]
    exact h
  | cons x rest ih =>
    obtain ⟨s, now⟩ := x
    have hs := step_sound settled s now
    have hi := keeps settled h s now
    rw [run, taken, calls_bind, value_bind, ← List.append_assoc calls, List.append_cons past]
    generalize (e.step s now).value = y at hs hi ⊢
    rcases y with ⟨_ | _ | _, e'⟩
    · exact ih _ hs hi
    · rw [calls_pure, List.append_nil, List.append_nil]
      exact hi
    · rw [calls_pure, List.append_nil, List.append_nil]
      exact hi

/-- So it does if the steps themselves do not matter. -/
theorem run_keeps {I : List Call → Engine ℓ σ π → Prop}
    (keeps : ∀ {calls : List Call} {e : Engine ℓ σ π}, e.Settled → I calls e →
      ∀ s now, I (calls ++ (e.step s now).calls) (e.step s now).value.2)
    {calls : List Call} {e : Engine ℓ σ π} (settled : e.Settled) (h : I calls e)
    (steps : List (Step × Instant)) :
    I (calls ++ (e.run steps).calls) (e.run steps).value.2 :=
  run_takes (I := fun _ => I) keeps [] settled h steps

/-- The life of an engine: it begins, takes steps as long as it goes on, and is let go. -/
def life (launcher : ℓ) (outbox : Outbox) (start : Instant) (steps : List (Step × Instant))
    (last : Instant) : Journaled (Verdict × Engine ℓ σ π) := do
  let e ← (new launcher outbox start).boot
  let (verdict, e) ← e.run steps
  return (verdict, ← e.release last)

omit [FrameSource σ] [Pipeline π] [Launcher ℓ σ π] in
/-- Beginning to run is no call. -/
theorem calls_boot (e : Engine ℓ σ π) : e.boot.calls = [] := by simp [boot]

omit [FrameSource σ] [Pipeline π] [Launcher ℓ σ π] in
/-- An engine that begins to run is as it was, but for what waits. -/
theorem value_boot (e : Engine ℓ σ π) : ∃ o, e.boot.value = { e with outbox := o } := by
  obtain ⟨o, ho⟩ := e.value_offer .ready
  exact ⟨o, by simp [boot, ho]⟩

/-- The calls of a life are those of its steps, then those of letting go. -/
theorem calls_life (launcher : ℓ) (outbox : Outbox) (start : Instant)
    (steps : List (Step × Instant)) (last : Instant) :
    let ran := (new launcher outbox start : Engine ℓ σ π).boot.value.run steps
    (life (σ := σ) (π := π) launcher outbox start steps last).calls =
      ran.calls ++ (ran.value.2.release last).calls := by
  simp [life, calls_boot]

/-- A life leaves what the engine is when it has been let go. -/
theorem value_life (launcher : ℓ) (outbox : Outbox) (start : Instant)
    (steps : List (Step × Instant)) (last : Instant) :
    let ran := (new launcher outbox start : Engine ℓ σ π).boot.value.run steps
    (life (σ := σ) (π := π) launcher outbox start steps last).value.2 =
      (ran.value.2.release last).value := by
  simp [life]

/-- What happens in the life of an engine that takes these steps and is let go then. -/
def occasions (e : Engine ℓ σ π) (steps : List (Step × Instant)) (last : Instant) :
    List Occasion :=
  (e.taken steps).map .step ++ [.release last]

/-- An engine that runs serves somebody, or nobody. -/
theorem run_serves (launcher : ℓ) (outbox : Outbox) (start : Instant)
    (steps : List (Step × Instant)) :
    let booted : Engine ℓ σ π := (new launcher outbox start).boot.value
    Serves launcher ((booted.taken steps).map .step) (booted.run steps).calls
      (booted.run steps).value.2 := by
  have hsettled := boot_settled (σ := σ) (π := π) launcher outbox start
  obtain ⟨o, ho⟩ := value_boot (new launcher outbox start : Engine ℓ σ π)
  rw [ho] at hsettled ⊢
  have hbegin : Serves launcher [] (List.flatMap Prod.fst [])
      { (new launcher outbox start : Engine ℓ σ π) with outbox := o } := .free rfl .none
  have hkeeps : ∀ {past : List (Step × Instant)} {calls : List Call} {e : Engine ℓ σ π},
      e.Settled → Serves launcher (past.map .step) calls e → ∀ s now,
        Serves launcher ((past ++ [(s, now)]).map .step) (calls ++ (e.step s now).calls)
          (e.step s now).value.2 := by
    intro past calls e settled h s now
    rw [List.map_append]
    exact h.step settled s now
  exact run_takes (I := fun past => Serves launcher (past.map .step)) hkeeps [] hsettled hbegin
    steps

end Engine

end Framecast
