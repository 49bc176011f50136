import PackageBuild.Proofs.Blocking
import PackageBuild.Proofs.Report.Survey
import PackageBuild.Proofs.Summary.Survey
import PackageBuild.Proofs.Telemetry.Stage
import PackageBuild.Proofs.Value.Maps
import PackageBuild.Report.Entry
import PackageBuild.Report.Shown

/-!
# The answers of reports

A report is an activity that reads under the lock, logs, records its contents on a span and may
write a file.  Its answer is a function of what it shows of the graph and the progress at the moment
when it holds the lock, and of the file that it writes.

Main results:

- Theorem `Ends.bind`: how an activity and what follows it end.
- Theorem `ends_compose`: the answer of a report under the lock.
- Theorems `ends_print`, `writes_record` and `ends_make`: the answers at a site where nobody waits.
- Theorem `exists_reported_of_make`: whatever others do meanwhile, a report that is had is the
  answer at one site.
-/

namespace PackageBuild.Report

open Telemetry

variable {ν α β : Type} {s : Site ν}

/-- Whatever the trace is, an activity at a site ends with a result, and leaves the site such that a
property holds of it. -/
def Ends (body : Work ν α) (s : Site ν) (result : Except Condition α) (after : Site ν → Prop) :
    Prop :=
  ∀ t, ∃ t' s', body.outcome t s = (result, t', s') ∧ after s'

/-- An activity ends with one result. -/
theorem Ends.unique {body : Work ν α} {x y : Except Condition α} {after after' : Site ν → Prop}
    (h : Ends body s x after) (h' : Ends body s y after') : x = y := by
  obtain ⟨_, _, hx, -⟩ := h {}
  obtain ⟨_, _, hy, -⟩ := h' {}
  exact congrArg Prod.fst (hx.symm.trans hy)

/-- What follows an activity begins where the activity ends, unless it stopped. -/
theorem Ends.bind {body : Work ν α} {next : α → Work ν β} {x : Except Condition α}
    {f : α → Except Condition β} {between after : Site ν → Prop} (h : Ends body s x between)
    (hok : ∀ a s', x = .ok a → between s' → Ends (next a) s' (f a) after)
    (herror : ∀ condition s', x = .error condition → between s' → after s') :
    Ends (body >>= next) s (x >>= f) after := by
  intro t
  obtain ⟨t', s', hbody, hs'⟩ := h t
  rw [Activity.outcome_bind, hbody]
  cases x with
  | ok a => exact hok a s' rfl hs' t'
  | error condition => exact ⟨t', s', rfl, herror condition s' rfl hs'⟩

/-- What follows an activity that leaves the site as it is. -/
theorem Ends.bind_same {body : Work ν α} {next : α → Work ν β} {x : Except Condition α}
    {f : α → Except Condition β} {after : Site ν → Prop} (h : Ends body s x (· = s))
    (hok : ∀ a, x = .ok a → Ends (next a) s (f a) after)
    (herror : ∀ condition, x = .error condition → after s) :
    Ends (body >>= next) s (x >>= f) after := by
  refine h.bind ?_ ?_
  · rintro a _ hx rfl
    exact hok a hx
  · rintro condition _ hx rfl
    exact herror condition hx

/-- What follows an activity that always succeeds and leaves the site as it is. -/
theorem Ends.bind_ok {body : Work ν α} {next : α → Work ν β} {a : α} {y : Except Condition β}
    {after : Site ν → Prop} (h : Ends body s (.ok a) (· = s)) (hnext : Ends (next a) s y after) :
    Ends (body >>= next) s y after := by
  have hbind : Ends (body >>= next) s (Except.ok a >>= fun _ => y) after := by
    refine h.bind_same ?_ ?_
    · rintro _ ⟨⟩
      exact hnext
    · rintro _ ⟨⟩
  exact hbind

/-! ## Single steps -/

/-- Logging ends well and leaves the site as it is. -/
theorem ends_logAll (records : List Log.Record) :
    Ends (Activity.logAll records : Work ν Unit) s (.ok ()) (· = s) := fun _ => ⟨_, s, rfl, rfl⟩

/-- A trouble ends the work and leaves the site as it is. -/
theorem ends_ofTrouble (result : Except Classification.Trouble α) :
    Ends (ofTrouble result : Work ν α) s (result.mapError .ofTrouble) (· = s) := by
  intro t
  cases result with
  | ok a => exact ⟨t, s, rfl, rfl⟩
  | error trouble => exact ⟨t, s, rfl, rfl⟩

/-- A fault ends the work and leaves the site as it is. -/
theorem ends_ofFault (result : Except Value.Fault α) :
    Ends (Activity.ofFault result : Work ν α) s (result.mapError .fault) (· = s) :=
  fun t => ⟨t, s, Activity.outcome_ofFault result t s, rfl⟩

/-- A survey ends with what it read, or with the fault of the graph. -/
theorem ends_readSurvey (reading : Graph → Progress.Reading α) (survey : α → Survey) :
    Ends (readSurvey reading survey) s
      ((surveyed s.graph (survey ((reading s.graph).run s.progress))).map fun _ =>
        (reading s.graph).run s.progress) (· = s) := by
  intro t
  unfold surveyed
  cases hunit : s.graph.unitFault? with
  | some fault =>
    refine ⟨t, s, ?_, rfl⟩
    rw [readSurvey, Activity.outcome_bind, outcome_check, hunit]
    rfl
  | none =>
    refine ⟨t.emitAll ((survey ((reading s.graph).run s.progress)).records.map .log), s, ?_, rfl⟩
    cases hpackage : s.graph.packageFault? <;>
      simp [readSurvey, Activity.outcome_bind, Activity.outcome_map, outcome_check, hunit,
        hpackage, Except.map]

/-- Resolving blockers ends as it does for the graph alone. -/
theorem ends_resolveBlockers (c : Classification) :
    Ends (resolveBlockers c) s ((Blocking.resolve s.graph c).2.mapError .ofBlocking) (· = s) := by
  intro t
  refine ⟨t.emitAll ((Blocking.resolve s.graph c).1.map .log), s, ?_, rfl⟩
  rw [resolveBlockers, Activity.outcome_bind, Activity.outcome_state]
  cases h : Blocking.resolve s.graph c with
  | mk records result =>
    cases result <;> simp [h, Activity.outcome_bind, Activity.outcome_map, Except.map]

/-! ## The table -/

/-- What writing a table to a path does. -/
def tableAt (files : FileSystem) (rows : List Summary.Row) (path : Path) :
    Except Condition Summary.Written :=
  (Summary.Export.write files rows path).mapError fun _ => .nullInPath

/-- An activity ends with whether a table was written completely, and leaves the files as the table
was written. -/
def Writes (body : Work ν Bool) (s : Site ν) (table : Except Condition Summary.Written) : Prop :=
  Ends body s (table.map Summary.Written.complete) fun s' =>
    ∀ written, table = .ok written → s'.files = written.files

/-- What writes a table may follow what leaves the site as it is. -/
theorem Writes.bind {body : Work ν α} {next : α → Work ν Bool} {x : Except Condition α}
    {table : α → Except Condition Summary.Written} (h : Ends body s x (· = s))
    (hnext : ∀ a, x = .ok a → Writes (next a) s (table a)) :
    Writes (body >>= next) s (x >>= table) := by
  intro t
  obtain ⟨t', _, hbody, rfl⟩ := h t
  rw [Activity.outcome_bind, hbody]
  cases x with
  | ok a => exact hnext a rfl t'
  | error condition =>
    refine ⟨t', _, rfl, ?_⟩
    rintro written ⟨⟩

/-- Writing a table ends as it does for the files alone. -/
theorem writes_writeTable (rows : List Summary.Row) (path : Path) :
    Writes (writeTable rows path) s (tableAt s.files rows path) := by
  intro t
  rw [writeTable, Activity.outcome_bind, Activity.outcome_state]
  unfold tableAt
  cases h : Summary.Export.write s.files rows path with
  | error refusal =>
    refine ⟨t, s, by simp [h, Except.map], ?_⟩
    rintro written ⟨⟩
  | ok written =>
    refine ⟨t.emitAll (written.records.map .log), { s with files := written.files },
      by simp [h, Activity.outcome_bind, Activity.outcome_map, Except.map], ?_⟩
    rintro _ ⟨⟩
    rfl

/-- Whether the table of a report was written. -/
def configuredTable (files : FileSystem) (configuration : Configuration)
    (rows : List Summary.Row) : Except Condition Bool :=
  match configuration.tablePath? with
  | none => .ok false
  | some path => (tableAt files rows path).map Summary.Written.complete

/-- Writing the table that is configured ends as it does for the files alone. -/
theorem ends_writeConfigured (configuration : Configuration) (rows : List Summary.Row) :
    Ends (writeConfigured configuration rows) s (configuredTable s.files configuration rows)
      fun _ => True := by
  intro t
  unfold writeConfigured configuredTable
  cases configuration.tablePath? with
  | none => exact ⟨t, s, rfl, trivial⟩
  | some path =>
    obtain ⟨t', s', hwritten, -⟩ := writes_writeTable rows path t
    exact ⟨t', s', hwritten, trivial⟩

/-! ## The contents on the span -/

/-- The plain form of the counts has them in the order of the outcomes' texts. -/
theorem plain_outcomeCounts (c : Classification) :
    Value.plain true (.map (outcomeCounts c)) =
      .ok (.map ((Value.inOrder Outcome.text Outcome.all).map fun o =>
        (.text o.text, .int (c.count o)))) := by
  have hplain : Value.plain true (.map (outcomeCounts c)) =
      (Value.sortEntries (Outcome.all.map fun o => (.text o.text, .int (c.count o)))).map .map :=
    rfl
  rw [hplain, Value.sortEntries_map_text Outcome.text (fun o => Value.int (c.count o))]
  rfl

/-- The counts of the outcomes always have a plain form, and it is written. -/
theorem exists_written_outcomeCounts (c : Classification) :
    ∃ counts s, Value.plain true (.map (outcomeCounts c)) = .ok (.map counts) ∧
      Value.written (.map counts) = .ok s := by
  have hwritten : ∀ o ∈ Value.inOrder Outcome.text Outcome.all,
      Value.written (.int (c.count o)) = .ok (Text.integerText (c.count o)) := fun _ _ => rfl
  exact ⟨_, _, plain_outcomeCounts c, Value.written_map_text Outcome.text hwritten⟩

/-- Recording the contents of a report never stops it and logs nothing. -/
theorem exists_outcome_recordContents (span : Nat) (c : Classification) (written : Bool) (t : Trace)
    (s : Site ν) :
    ∃ t', (recordContents span c written : Work ν Unit).outcome t s = (.ok (), t', s) ∧
      t'.logged = t.logged := by
  obtain ⟨counts, text, hplain, htext⟩ := exists_written_outcomeCounts c
  have hnormalised : ∃ normalised, normalise t.limit? (.map
      [(.text "build_units", .int c.total), (.text "csv_written", .bool written),
        (.text "outcome_counts", .map counts)]) = .ok normalised := by
    refine exists_normalise fun entry hentry => ?_
    simp only [List.mem_cons, List.not_mem_nil, or_false] at hentry
    rcases hentry with rfl | rfl | rfl
    · exact ⟨⟨_, rfl⟩, _, rfl⟩
    · exact ⟨⟨_, rfl⟩, _, rfl⟩
    · exact ⟨⟨_, rfl⟩, _, Attempt.map_eq_ok_iff.2 ⟨text, htext, rfl⟩⟩
  obtain ⟨normalised, hnormalised⟩ := hnormalised
  refine ⟨t.emitAll (normalised.entries.map fun entry => .set span entry.1 entry.2), ?_, by simp⟩
  rw [recordContents, Activity.outcome_bind, Activity.outcome_ofFault, hplain]
  exact outcome_setAttributes hnormalised span s

/-- Recording the contents of a report ends well and leaves the site as it is. -/
theorem ends_recordContents (span : Nat) (c : Classification) (written : Bool) :
    Ends (recordContents span c written : Work ν Unit) s (.ok ()) (· = s) := by
  intro t
  obtain ⟨t', ht', -⟩ := exists_outcome_recordContents span c written t s
  exact ⟨t', s, ht', rfl⟩

/-! ## A report under the lock -/

/-- What a request shows at a site. -/
def Request.shownAt (request : Request) (s : Site ν) : Except Condition Shown :=
  (request.read s.graph).run s.progress

/-- The report of what is shown. -/
def Shown.toReport (shown : Shown) (configuration : Configuration) (written : Bool) : Report :=
  ⟨shown.classification, shown.blockers, shown.lines, shown.rows,
    configuration.tablePath?.map Path.text, written⟩

/-- The answer of a report. -/
def reported (configuration : Configuration) (s : Site ν) : Except Condition Report := do
  let shown ← (Request.report configuration.allowRebuilds).shownAt s
  let written ← configuredTable s.files configuration shown.rows
  return shown.toReport configuration written

/-- What is had from a survey is its classification. -/
theorem eq_classification_of_surveyed {g : Graph} {survey : Survey} {c : Classification}
    (h : surveyed g survey = .ok c) : c = survey.classification := by
  unfold surveyed at h
  split at h
  · cases h
    rfl
  · contradiction
  · contradiction

/-- The table may be written before the lines are made, as a report does it: where there are rows
there are lines. -/
theorem reported_eq (configuration : Configuration) :
    reported configuration s =
      ((surveyed s.graph (Survey.of s.graph s.progress)).map fun _ =>
        (Survey.of s.graph s.progress, Summary.lines (Survey.of s.graph s.progress).classification
          (optionsOf s.progress configuration.allowRebuilds))) >>= fun found =>
      (Blocking.resolve s.graph found.1.classification).2.mapError .ofBlocking >>= fun blockers =>
      (Summary.rows found.1.classification blockers).mapError .ofTrouble >>= fun rows =>
      configuredTable s.files configuration rows >>= fun written =>
      found.2.mapError .ofTrouble >>= fun lines =>
      .ok ⟨found.1.classification, blockers, lines, rows, configuration.tablePath?.map Path.text,
        written⟩ := by
  unfold reported Request.shownAt
  rw [Request.run_read_report, Shown.ofBoth, Shown.ofTable]
  cases hsurveyed : surveyed s.graph (Survey.of s.graph s.progress) with
  | error condition => rfl
  | ok c =>
    cases eq_classification_of_surveyed hsurveyed
    cases hblockers : (Blocking.resolve s.graph
        (Survey.of s.graph s.progress).classification).2 with
    | error e => simp [hblockers, Except.map, bind, Except.bind]
    | ok blockers =>
      cases hrows : Summary.rows (Survey.of s.graph s.progress).classification blockers with
      | error trouble =>
        simp [hblockers, hrows, Except.map, bind, Except.bind]
      | ok rows =>
        obtain ⟨lines, hlines⟩ := Summary.exists_lines_of_rows hrows
          (optionsOf s.progress configuration.allowRebuilds)
        simp [hblockers, hrows, hlines, Except.map, bind, Except.bind, pure, Except.pure,
          Shown.toReport]

/-- A report under the lock ends with its answer. -/
theorem ends_compose (configuration : Configuration) (logger : String) (span : Nat) :
    Ends (compose configuration logger span) s (reported configuration s) fun _ => True := by
  have hsurvey : Ends (readSurvey (fun g => surveyWithLines g configuration.allowRebuilds) Prod.fst)
      s _ (· = s) := ends_readSurvey _ _
  rw [run_surveyWithLines] at hsurvey
  rw [reported_eq, compose]
  refine hsurvey.bind_same ?_ fun _ _ => trivial
  intro found _
  refine (ends_resolveBlockers _).bind_same ?_ fun _ _ => trivial
  intro blockers _
  refine (ends_ofTrouble _).bind_same ?_ fun _ _ => trivial
  intro rows _
  refine (ends_writeConfigured configuration rows).bind ?_ fun _ _ _ _ => trivial
  intro written s' _ _
  refine (ends_ofTrouble _).bind_same ?_ fun _ _ => trivial
  intro lines _
  refine (ends_logAll _).bind_ok ((ends_recordContents _ _ _).bind_ok ?_)
  exact fun t => ⟨t, s', rfl, trivial⟩

/-- A graph whose nodes have their shapes and find their predecessors is always reported when no
table is asked for. -/
theorem exists_reported (hg : s.graph.Typed)
    (hpredecessors : ∀ n ∈ s.graph.nodes, ∃ nodes, s.graph.predecessors (.node n) = .ok nodes)
    (allowRebuilds : Bool) : ∃ r, reported ⟨allowRebuilds, none⟩ s = .ok r := by
  have hsurveyed : surveyed s.graph (Survey.of s.graph s.progress) =
      .ok (Survey.of s.graph s.progress).classification := by
    rw [surveyed, Graph.unitFault?_eq_none fun n hn => (hg n hn).unitFault?_eq_none,
      Graph.packageFault?_eq_none fun n hn => (hg n hn).packageFault?_eq_none]
  obtain ⟨blockers, rows, hblockers, hrows⟩ := Summary.exists_rows hg hpredecessors s.progress
  obtain ⟨lines, hlines⟩ :=
    Summary.exists_lines_of_rows hrows (optionsOf s.progress allowRebuilds)
  unfold reported Request.shownAt
  rw [Request.run_read_report, Shown.ofBoth, Shown.ofTable, hsurveyed]
  simp only [hblockers, hrows, hlines, Attempt.mapError_ok, bind, Except.bind, pure, Except.pure,
    configuredTable]
  exact ⟨_, rfl⟩

/-! ## Reports at a site where nobody waits -/

/-- A site whose read side is held. -/
def Site.held (s : Site ν) : Site ν := { s with lock := s.lock.grant .read }

/-- Work under the lock runs where the lock is held, and however it ends the lock is given back. -/
theorem outcome_readLocked {body : Work ν α} {t t' : Trace} {s' : Site ν} {x : Except Condition α}
    (h : body.outcome t s.held = (x, t', s')) :
    (readLocked (pure ()) body).outcome t s = (x, t', { s' with lock := giveBack s'.lock }) := by
  have hheld : body.outcome t { s with lock := s.lock.grant .read } = (x, t', s') := h
  simp only [readLocked, onLock, Activity.outcome_bind, Activity.outcome_pure,
    Activity.outcome_onState, Activity.outcome_attempt, hheld, Activity.outcome_endAs]

/-- Work under the lock ends as it ends where the lock is held, and gives the lock back. -/
theorem ends_readLocked {body : Work ν α} {x : Except Condition α} {after : Site ν → Prop}
    (h : Ends body s.held x after)
    (hlock : ∀ s', after s' → after { s' with lock := giveBack s'.lock }) :
    Ends (readLocked (pure ()) body) s x after := by
  intro t
  obtain ⟨t', s', hbody, hs'⟩ := h t
  exact ⟨t', _, outcome_readLocked hbody, hlock s' hs'⟩

/-- A stage that starts with texts ends as its work does. -/
theorem ends_stage {name scope stageValue attributes : Value} {body : Nat → Work ν α}
    {x : Except Condition α} {after : Site ν → Prop} (entries : List (String × String))
    (hstart : startValue stageValue attributes =
      .ok (.map (entries.map fun e => (.text e.1, .text e.2))))
    (h : ∀ span, Ends (body span) s x after) :
    Ends (stage name scope stageValue attributes body) s x after := by
  intro t
  obtain ⟨normalised, hnormalised⟩ := exists_normalise_texts t.limit? entries
  obtain ⟨t₀, t', hstage, -⟩ :=
    exists_outcome_stage name scope hstart hnormalised body s
  obtain ⟨t₁, s', hbody, hs'⟩ := h (t.started + 1) t₀
  rw [hbody] at hstage
  exact ⟨t', s', hstage, hs'⟩

/-- Printing answers with the lines that are shown. -/
theorem ends_print (allowRebuilds : Bool) (logger : String) :
    Ends (print (pure ()) allowRebuilds logger) s
      (((Request.print allowRebuilds).shownAt s).map Shown.lines) fun _ => True := by
  have hshown : ((Request.print allowRebuilds).shownAt s).map Shown.lines =
      ((surveyed s.graph (Survey.of s.graph s.progress)).map fun _ =>
        (Survey.of s.graph s.progress, Summary.lines (Survey.of s.graph s.progress).classification
          (optionsOf s.progress allowRebuilds))) >>= fun found =>
      found.2.mapError .ofTrouble >>= fun lines => .ok lines := by
    rw [Request.shownAt, Request.run_read_print, Shown.ofLines]
    cases surveyed s.graph (Survey.of s.graph s.progress) with
    | error condition => rfl
    | ok c =>
      cases Summary.lines (Survey.of s.graph s.progress).classification
        (optionsOf s.progress allowRebuilds) <;> rfl
  rw [hshown]
  refine ends_stage [(stageKey, "summary")] rfl fun span => ?_
  refine ends_readLocked ?_ fun _ _ => trivial
  have hsurvey : Ends (readSurvey (fun g => surveyWithLines g allowRebuilds) Prod.fst)
      s.held _ (· = s.held) := ends_readSurvey _ _
  rw [run_surveyWithLines] at hsurvey
  refine hsurvey.bind_same ?_ fun _ _ => trivial
  intro found _
  refine (ends_ofTrouble _).bind_same ?_ fun _ _ => trivial
  intro lines _
  exact fun t => ⟨t.emitAll ((Summary.records logger lines).map .log), s.held, rfl, trivial⟩

/-- What writing the table to a destination does. -/
def recorded (destination : Summary.Destination) (s : Site ν) :
    Except Condition Summary.Written := do
  let shown ← Request.record.shownAt s
  let path ← destination.toPath.mapError .fault
  tableAt s.files shown.rows path

/-- The table is written as it is shown. -/
theorem writes_record (destination : Summary.Destination) :
    Writes (record (pure ()) destination) s (recorded destination s) := by
  have hrecorded : recorded destination s =
      ((surveyed s.graph (Survey.of s.graph s.progress)).map fun _ =>
        Survey.of s.graph s.progress) >>= fun survey =>
      (Blocking.resolve s.graph survey.classification).2.mapError .ofBlocking >>= fun blockers =>
      (Summary.rows survey.classification blockers).mapError .ofTrouble >>= fun rows =>
      destination.toPath.mapError .fault >>= fun path =>
      tableAt s.files rows path := by
    unfold recorded Request.shownAt
    rw [Request.run_read_record, Shown.ofTable]
    cases hsurveyed : surveyed s.graph (Survey.of s.graph s.progress) with
    | error condition => rfl
    | ok c =>
      cases eq_classification_of_surveyed hsurveyed
      cases hblockers : (Blocking.resolve s.graph
          (Survey.of s.graph s.progress).classification).2 with
      | error e => simp [hblockers, Except.map, bind, Except.bind]
      | ok blockers =>
        cases hrows : Summary.rows (Survey.of s.graph s.progress).classification blockers <;>
          simp [hblockers, hrows, Except.map, bind, Except.bind, pure, Except.pure]
  rw [hrecorded]
  refine ends_stage [(stageKey, "summary"), ("path", destination.shown)] rfl fun span => ?_
  refine ends_readLocked ?_ fun s' hs' => hs'
  refine Writes.bind (ends_readSurvey Survey.read id) ?_
  intro survey _
  refine Writes.bind (ends_resolveBlockers _) ?_
  intro blockers _
  refine Writes.bind (ends_ofTrouble _) ?_
  intro rows _
  refine Writes.bind (ends_ofFault _) ?_
  intro path _
  exact writes_writeTable rows path

/-- The configuration that a report is made with. -/
def configurationAt (given? : Option Configuration) (s : Site ν) :
    Except Condition Configuration :=
  match given? with
  | some configuration => .ok configuration
  | none => (Configuration.ofEnvironment s.environment).1.mapError fun _ => .homeUnknown

/-- The configuration is the one of the site. -/
theorem ends_resolveConfiguration (given? : Option Configuration) :
    Ends (resolveConfiguration given?) s (configurationAt given? s) (· = s) := by
  intro t
  cases given? with
  | some configuration => exact ⟨t, s, rfl, rfl⟩
  | none =>
    refine ⟨t.emitAll ((Configuration.ofEnvironment s.environment).2.map .log), s, ?_, rfl⟩
    rw [resolveConfiguration, Activity.outcome_bind, Activity.outcome_state]
    unfold configurationAt
    cases h : Configuration.ofEnvironment s.environment with
    | mk result records =>
      cases result <;> simp [h, Activity.outcome_bind, Activity.outcome_map, Except.map]

/-- Making a report answers with what is shown. -/
theorem ends_make (given? : Option Configuration) (logger : String) :
    Ends (make (pure ()) given? logger) s
      (configurationAt given? s >>= fun configuration => reported configuration s)
      fun _ => True := by
  refine (ends_resolveConfiguration given?).bind_same ?_ fun _ _ => trivial
  intro configuration _
  refine ends_stage [(stageKey, "summary")] rfl fun span => ?_
  exact ends_readLocked (ends_compose configuration logger span) fun _ _ => trivial

/-! ## Reports while others work -/

/-- Work under the lock succeeds as it does at the site that others leave when the lock is free. -/
theorem exists_of_readLocked {waiting : Work ν Unit} {body : Work ν α} {a : α} {t : Trace}
    (h : ((readLocked waiting body).outcome t s).1 = .ok a) :
    ∃ t' s', waiting.outcome t s = (.ok (), t', s') ∧ (body.outcome t' s'.held).1 = .ok a := by
  rw [readLocked, Activity.outcome_bind] at h
  rcases hwaiting : waiting.outcome t s with ⟨result, t', s'⟩
  rw [hwaiting] at h
  cases result with
  | ok _ =>
    simp only [onLock, Activity.outcome_bind, Activity.outcome_onState, Activity.outcome_attempt,
      Activity.outcome_endAs] at h
    exact ⟨t', s', rfl, h⟩
  | error condition => contradiction

/-- Whatever others do meanwhile, a report that is had is the answer at one site. -/
theorem exists_reported_of_make {waiting : Work ν Unit} {given? : Option Configuration}
    {logger : String} {t : Trace} {r : Report}
    (h : ((make waiting given? logger).outcome t s).1 = .ok r) :
    ∃ (configuration : Configuration) (s' : Site ν), reported configuration s' = .ok r := by
  rw [make, Activity.outcome_bind] at h
  obtain ⟨t₁, s, hresolved, rfl⟩ := ends_resolveConfiguration (s := s) given? t
  rw [hresolved] at h
  cases hconfiguration : configurationAt given? s with
  | error condition =>
    rw [hconfiguration] at h
    contradiction
  | ok configuration =>
    rw [hconfiguration] at h
    obtain ⟨normalised, hnormalised⟩ := exists_normalise_texts t₁.limit? [(stageKey, "summary")]
    have hstart : startValue stageName .null = .ok (.map [(.text stageKey, stageName)]) := rfl
    obtain ⟨t₂, t₃, hstage, -⟩ := exists_outcome_stage (.text "build_summary.report") reportingScope
      hstart hnormalised (fun span => readLocked waiting (compose configuration logger span)) s
    have hlocked := (congrArg Prod.fst hstage).symm.trans h
    obtain ⟨t₄, s', -, hcomposed⟩ := exists_of_readLocked hlocked
    obtain ⟨t₅, s₅, hends, -⟩ :=
      ends_compose (s := s'.held) configuration logger (t₁.started + 1) t₄
    rw [hends] at hcomposed
    exact ⟨configuration, s'.held, hcomposed⟩

end PackageBuild.Report
