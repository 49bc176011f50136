import PackageBuild.Proofs.Classification.History
import PackageBuild.Proofs.Report.Answer
import PackageBuild.Proofs.Workshop.Snapshot

/-!
# Reports in a workshop

Reports are made by threads that read the progress bit by bit, while other threads want to change it
under the same lock.  What a report shows is what the same report shows at a site where nobody else
is, on the progress that the finished blocks of updates leave.

Main results:

- Theorem `yields_read`: what is read of one progress is what is answered at a site with it.
- Theorem `shows_snapshots`: every report of a run shows a snapshot, and no update is lost.
-/

namespace PackageBuild

namespace Report.Request

/-- What is shown for a request is what the request is answered with, at all sites with a graph and
a progress where nobody waits: the lines that are printed, the table that is written, or the whole
report. -/
def Yields (g : Graph) (p : Progress) (shown : Except Condition Shown) : Request → Prop
  | print allowRebuilds => ∀ (ν : Type) (s : Site ν) (logger : String),
      s.graph = g → s.progress = p →
        Ends (Report.print (pure ()) allowRebuilds logger) s (shown.map Shown.lines) fun _ => True
  | record => ∀ (ν : Type) (s : Site ν) (destination : Summary.Destination),
      s.graph = g → s.progress = p →
        Writes (Report.record (pure ()) destination) s (shown >>= fun shown =>
          destination.toPath.mapError .fault >>= fun path => tableAt s.files shown.rows path)
  | report allowRebuilds => ∀ (ν : Type) (s : Site ν) (tablePath? : Option Path) (logger : String),
      s.graph = g → s.progress = p →
        Ends (Report.make (pure ()) (some ⟨allowRebuilds, tablePath?⟩) logger) s
          (shown >>= fun shown =>
            configuredTable s.files ⟨allowRebuilds, tablePath?⟩ shown.rows >>= fun written =>
              .ok (shown.toReport ⟨allowRebuilds, tablePath?⟩ written)) fun _ => True

/-- What is read of one progress is what is answered at every site with it. -/
theorem yields_read (g : Graph) (p : Progress) (request : Request) :
    request.Yields g p ((request.read g).run p) := by
  cases request with
  | print allowRebuilds =>
    rintro ν s logger rfl rfl
    exact ends_print allowRebuilds logger
  | record =>
    rintro ν s destination rfl rfl
    exact writes_record destination
  | report allowRebuilds =>
    rintro ν s tablePath? logger rfl rfl
    exact ends_make (some ⟨allowRebuilds, tablePath?⟩) logger

end Report.Request

namespace Workshop

open Progress (Update)
open Report (Request Shown)

/-- Every report of a run shows what it would show alone on the progress that was left by exactly
the blocks of updates that were finished before it got the lock; and the progress is that of the
blocks, one after another in the order in which they were begun, so that no update is lost. -/
theorem Run.shows_snapshots {g : Graph} {p : Progress}
    {es : List (Event Request (Except Condition Shown))}
    {w : Workshop Request (Except Condition Shown)}
    (h : Run (Request.read g) (fresh p) es w) :
    (∀ before after thread request shown, es = before ++ .closed thread request shown :: after →
      ∃ earlier later, before = earlier ++ .opened thread request :: later ∧
        (∀ other, .opened thread other ∉ later) ∧ updates earlier = finishedUpdates earlier ∧
          request.Yields g (p.run (finishedUpdates earlier)) shown) ∧
      w.progress = p.run (updates es) ∧
      ((∀ t done, w.phase t ≠ .writing done) →
        updates es = finishedUpdates es ∧ writers es = (blocks es).map Prod.fst) := by
  refine ⟨?_, h.progress_eq, ?_⟩
  · rintro before after thread request shown rfl
    obtain ⟨earlier, later, hbefore, hlast, hclosed, rfl⟩ := h.closed_eq
    exact ⟨earlier, later, hbefore, hlast, hclosed, Request.yields_read g _ request⟩
  · intro hnone
    refine h.byBlocks.outside fun t => ?_
    rw [← Bool.not_eq_true, Phase.isWriting_iff]
    rintro ⟨done, hdone⟩
    exact hnone t done hdone

/-! ## A report between two blocks -/

section Overlapping

open Survey (sharedNode sharedGraph)

/-- The second build is cached. -/
def cacheSecond : Update := .cache (sharedNode 1 .build) (.bool true)

/-- The first build fails. -/
def failFirst : Update := .fail ⟨sharedNode 0 .build, .text "broken", .text "first.log"⟩

/-- The first build succeeds. -/
def buildFirst : Update := .build (sharedNode 0 .build)

/-- A thread writes, and a report has to wait for it; while the report reads, another thread has to
wait to write. -/
def overlapping (shown : Except Condition Shown) : List (Event Request (Except Condition Shown)) :=
  [.began 1, .updated 1 cacheSecond, .waited 2, .updated 1 failFirst,
    .finished 1 [cacheSecond, failFirst], .opened 2 (.report true), .looked 2, .waited 3,
    .looked 2, .looked 2, .looked 2, .looked 2] ++
  .closed 2 (.report true) shown :: [.began 3, .updated 3 buildFirst, .finished 3 [buildFirst]]

/-- The events are those of a run. -/
theorem run_overlapping :
    ∃ shown w, Run (Request.read sharedGraph) (fresh {}) (overlapping shown) w := by
  have h : Run (Request.read sharedGraph) (fresh {}) [.began 1] _ :=
    Run.nil.snoc (.beginBlock (.inl rfl) (.request .write (by decide)))
  have h := h.snoc (@Step.update _ _ _ _ 1 _ cacheSecond rfl rfl)
  have h := h.snoc (@Step.wait _ _ _ _ 2 (.read (.report true)) _ (.inl rfl)
    (.request .read (by decide)))
  have h := h.snoc (@Step.update _ _ _ _ 1 _ failFirst rfl rfl)
  have h := h.snoc (@Step.finishBlock _ _ _ _ 1 _ _ rfl (.release rfl))
  have h := h.snoc (@Step.openTask _ _ _ _ 2 (.report true) _ (.inr rfl)
    (.resume (s := ⟨2, .read, true⟩) List.mem_cons_self rfl))
  have h := h.snoc (@Step.look _ _ _ _ 2 _ _ _ rfl rfl)
  have h := h.snoc (@Step.wait _ _ _ _ 3 .write _ (.inl rfl) (.request .write (by decide)))
  have h := h.snoc (@Step.look _ _ _ _ 2 _ _ _ rfl rfl)
  have h := h.snoc (@Step.look _ _ _ _ 2 _ _ _ rfl rfl)
  have h := h.snoc (@Step.look _ _ _ _ 2 _ _ _ rfl rfl)
  have h := h.snoc (@Step.look _ _ _ _ 2 _ _ _ rfl rfl)
  have h := h.snoc (@Step.closeTask _ _ _ _ 2 _ _ _ rfl (.release rfl))
  have h := h.snoc (@Step.beginBlock _ _ _ _ 3 _ (.inr rfl)
    (.resume (s := ⟨3, .write, true⟩) List.mem_cons_self rfl))
  have h := h.snoc (@Step.update _ _ _ _ 3 _ buildFirst rfl rfl)
  have h := h.snoc (@Step.finishBlock _ _ _ _ 3 _ _ rfl (.release rfl))
  exact ⟨_, _, h⟩

/-- The report shows what the first block left, and no update is lost. -/
theorem shows_snapshots_overlapping :
    ∃ shown w, Run (Request.read sharedGraph) (fresh {}) (overlapping shown) w ∧
      (Request.report true).Yields sharedGraph (Progress.run {} [cacheSecond, failFirst]) shown ∧
      w.progress = Progress.run {} [cacheSecond, failFirst, buildFirst] := by
  obtain ⟨shown, w, hrun⟩ := run_overlapping
  obtain ⟨hreports, hprogress, -⟩ := hrun.shows_snapshots
  refine ⟨shown, w, hrun, ?_, hprogress⟩
  obtain ⟨earlier, later, hbefore, -, -, hanswers⟩ := hreports _ _ 2 (.report true) shown rfl
  -- The thread gets the read side only once.
  have hsplit : earlier = [.began 1, .updated 1 cacheSecond, .waited 2, .updated 1 failFirst,
      .finished 1 [cacheSecond, failFirst]] ∧
      later = [.looked 2, .waited 3, .looked 2, .looked 2, .looked 2, .looked 2] := by
    simpa [List.cons_eq_append_iff] using hbefore
  rw [hsplit.1] at hanswers
  exact hanswers

end Overlapping

end Workshop

end PackageBuild
