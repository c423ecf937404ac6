import TypingTrainer.Proofs.History
import TypingTrainer.Proofs.Mirror

namespace TypingTrainer

def SnippetInfo.record? (info : SnippetInfo) (r : Result) : Option Record :=
  info.id.map fun id => ⟨id, r.wpm, r.accuracy⟩

namespace Practice

variable {p q : Practice} {a : Action} {es : List Event} {cs : List Call} {recorder : Recorder}

abbrev Test := SnippetInfo × Option Result

def testsOf (p q : Practice) (es : List Event) : List Test :=
  (es.filter (· == .testCompleted)).map fun _ => (p.info, q.result)

def seeTests : Observer (List Test) := fun p _ q es tests => tests ++ p.testsOf q es

/-- The tests that were completed in a run, one for each event that says so. -/
def tests (p : Practice) (actions : List Action) : List Test := p.observe seeTests [] actions

/-- Each test has a result, and the calls are made for those of them that have an id, in order. -/
def Recorded (tests : List Test) (cs : List Call) : Prop :=
  ∃ results : List (SnippetInfo × Result), tests = results.map (fun t => (t.1, some t.2)) ∧
    cs.map Call.record = results.filterMap fun t => t.1.record? t.2

theorem recorded_nil : Recorded [] [] := ⟨[], rfl, rfl⟩

theorem Recorded.append {ts us : List Test} {ds : List Call} (h : Recorded ts cs)
    (h' : Recorded us ds) : Recorded (ts ++ us) (cs ++ ds) := by
  obtain ⟨xs, rfl, hcs⟩ := h
  obtain ⟨ys, rfl, hds⟩ := h'
  refine ⟨xs ++ ys, List.map_append.symm, ?_⟩
  rw [List.map_append, List.filterMap_append, hcs, hds]

theorem map_record_callsFor (h : p.recorder = some recorder) (r : Result) :
    (p.callsFor r).map Call.record = (p.info.record? r).toList := by
  cases hid : p.info.id <;> simp [callsFor, SnippetInfo.record?, h, hid]

theorem Leaves.info_eq {now : Instant} (h : p.Leaves a now q) : q.info = p.info := by
  cases h <;> rfl

/-- The end of a test is the one move that calls the recorder. -/
theorem Leaves.recorded {now : Instant} (hr : p.recorder = some recorder)
    (h : p.Leaves a now q) :
    Recorded (p.testsOf (q.conclude now).practice [.testCompleted]) (q.conclude now).calls := by
  obtain ⟨r, hresult, hcalls⟩ : ∃ r, (q.conclude now).practice.result = some r ∧
      (q.conclude now).calls = q.callsFor r := ⟨_, rfl, rfl⟩
  have hrecorder : q.recorder = some recorder := h.recorder_eq.trans hr
  refine ⟨[(p.info, r)], ?_, ?_⟩
  · simp [testsOf, hresult]
  · rw [hcalls, map_record_callsFor hrecorder, h.info_eq]
    cases hrecord : p.info.record? r <;> simp [hrecord]

theorem Turn.recorded (hr : p.recorder = some recorder) (h : Turn p a q es cs) :
    Recorded (p.testsOf q es) cs := by
  cases h with
  | still => exact recorded_nil
  | move h =>
      cases h with
      | finish now q hq => exact hq.recorded hr
      | _ => exact recorded_nil

theorem step_recorded (hs : p.Sound) (hr : p.recorder = some recorder) (a : Action) :
    Recorded (p.testsOf (p.step a).practice (p.step a).events) (p.step a).calls := by
  rcases step_cases hs a with hturn | ⟨k, now, es, hopens⟩
  · exact hturn.recorded hr
  · -- the start itself completes nothing
    have hrecorded := hopens.turn.recorded (p := p.started now) hr
    rw [hopens.events_eq]
    exact hrecorded

theorem observe_recorded {ts : List Test} (hs : p.Sound) (hr : p.recorder = some recorder)
    (h : Recorded ts cs) (actions : List Action) :
    Recorded (p.observe seeTests ts actions) (cs ++ (p.run actions).calls) := by
  induction actions generalizing p ts cs with
  | nil => simpa [observe, run] using h
  | cons a rest ih =>
      have hkept : (p.step a).practice.recorder = some recorder :=
        (run_recorder hs [a]).trans hr
      have hmore := ih (step_sound hs a) hkept (h.append (step_recorded hs hr a))
      rw [List.append_assoc] at hmore
      exact hmore

theorem length_testsOf (p q : Practice) (es : List Event) :
    (p.testsOf q es).length = es.count .testCompleted := by
  rw [testsOf, List.length_map, List.count_eq_length_filter]

theorem length_observe_tests (p : Practice) (ts : List Test) (actions : List Action) :
    (p.observe seeTests ts actions).length =
      ts.length + (p.run actions).events.count .testCompleted := by
  induction actions generalizing p ts with
  | nil => rfl
  | cons a rest ih =>
      have hevents : (p.run (a :: rest)).events =
          (p.step a).events ++ ((p.step a).practice.run rest).events := rfl
      rw [observe, ih, seeTests, List.length_append, length_testsOf, hevents, List.count_append,
        Nat.add_assoc]

/-- In every run the recorder is called once for each completed test that has an id, with the
numbers of the result then shown, and for nothing else. With another recorder, or none, the run is
the same in all but these calls. -/
theorem recording_run (source : Snippet) (info : SnippetInfo) (preset : Preset)
    (settleDelay : Duration) (recorder : Recorder) (actions : List Action) :
    let fresh := begin source info preset settleDelay (some recorder)
    let r := fresh.run actions
    (fresh.tests actions).length = r.events.count .testCompleted ∧
    (∃ results : List (SnippetInfo × Result),
      fresh.tests actions = results.map (fun t => (t.1, some t.2)) ∧
      r.calls.map Call.record = results.filterMap fun t => t.1.record? t.2) ∧
    ∀ other : Option Recorder,
      let s := (begin source info preset settleDelay other).run actions
      s.answer = r.answer ∧ s.events = r.events ∧
      s.practice = { r.practice with recorder := other } := by
  intro fresh r
  have hs : fresh.Sound := begin_sound source info preset settleDelay (some recorder)
  refine ⟨?_, ?_, fun other => ?_⟩
  · have hlength := length_observe_tests fresh [] actions
    rwa [List.length_nil, Nat.zero_add] at hlength
  · exact observe_recorded hs rfl recorded_nil actions
  · have hmirrors := mirrors_run hs 0 other actions
    have hother : fresh.mirror 0 other = begin source info preset settleDelay other :=
      mirror_zero fresh other
    rw [map_later_zero, hother] at hmirrors
    exact ⟨hmirrors.answer_eq, hmirrors.events_eq,
      hmirrors.practice_eq.trans (mirror_zero _ other)⟩

/-- Two tests, the first of them ended in a pause by a switch of the mode, the second on a snippet
without an id: a recorder that refuses everything is called for the first. -/
theorem recording_run_refused :
    let tokens := [Token.ofText "a" "identifier" [.identifier] 0,
      .ofText "=" "operator" [.operator] 0]
    let fresh := begin (.ofTokens tokens) (.embedded .python) .full 50 (some ⟨fun _ => false⟩)
    let actions : List Action := [.key (.plain 'a') 10, .poll 60, .togglePause 70,
      .setPreset .minimal 80, .poll 90, .replaceSnippet (.ofWords ["b"]) {}, .key (.plain 'b') 100,
      .poll 150, .completeLine 3 160]
    (fresh.run actions).events.count .testCompleted = 2 ∧
      ∃ wpm accuracy, (fresh.run actions).calls.map Call.record =
        [⟨"python-default", wpm, accuracy⟩] := by
  obtain ⟨hcount, ⟨results, htests, hcalls⟩, -⟩ := recording_run
    (.ofTokens [.ofText "a" "identifier" [.identifier] 0, .ofText "=" "operator" [.operator] 0])
    (.embedded .python) .full 50 ⟨fun _ => false⟩
    [.key (.plain 'a') 10, .poll 60, .togglePause 70, .setPreset .minimal 80, .poll 90,
      .replaceSnippet (.ofWords ["b"]) {}, .key (.plain 'b') 100, .poll 150, .completeLine 3 160]
  have hinfos : results.map Prod.fst = [.embedded .python, {}] := by
    have hfirsts := congrArg (List.map Prod.fst) htests
    rw [List.map_map] at hfirsts
    exact hfirsts.symm.trans (by decide +kernel)
  obtain ⟨⟨info, r⟩, rest, rfl, hinfo, hrest⟩ := List.map_eq_cons_iff.1 hinfos
  obtain ⟨⟨info', r'⟩, rest, rfl, hinfo', hnil⟩ := List.map_eq_cons_iff.1 hrest
  obtain rfl := List.map_eq_nil_iff.1 hnil
  subst hinfo hinfo'
  exact ⟨hcount.symm.trans (by decide +kernel), r.wpm, r.accuracy, hcalls⟩

end Practice

end TypingTrainer
