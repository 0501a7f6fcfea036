import Catalogue.Browse
import Catalogue.Proofs.Selection.Filtering

/-!
# The history of a browser

A browser that shows a page other than the first one has been sent there, and since then it has kept
its query, format, tags and order (`page_history`).  One step explains this: a step that changes
one of them leads back to the first page, and a step that changes none of them keeps the page
(`step_cases`).  The way tags combine may have changed meanwhile, but it makes no difference to the
results unless different tags are selected (`select_eq_of_sameListing`).
-/

namespace Catalogue

namespace Selection

/-- With one selected tag at most it does not matter how tags combine. -/
theorem byTags_logic {tags : List String} (h : ∀ t ∈ tags, ∀ u ∈ tags, t = u) (rs : List Record)
    (logic logic' : TagLogic) : byTags rs tags logic = byTags rs tags logic' := by
  have hcombine : ∀ r : Record, r.Carries .all tags ↔ r.Carries .any tags := by
    intro r
    cases tags with
    | nil => simp [Record.Carries]
    | cons t tags =>
        have hsame : ∀ u ∈ tags, t = u := fun u hu =>
          h t List.mem_cons_self u (List.mem_cons_of_mem t hu)
        simp only [Record.Carries, reduceCtorEq, false_or]
        constructor
        · exact fun hall => ⟨t, List.mem_cons_self, hall t List.mem_cons_self⟩
        · rintro ⟨u, hu, hcarried⟩ v hv
          exact h u hu v hv ▸ hcarried
  have hlogic : ∀ r : Record, r.Carries logic tags ↔ r.Carries logic' tags := by
    intro r
    cases logic <;> cases logic' <;> simp [hcombine r]
  simp only [byTags_eq, hlogic]

end Selection

/-- Criteria that agree on everything but the way tags combine. -/
structure Criteria.SameListing (c c' : Criteria) : Prop where
  query : c.query = c'.query
  format : c.format = c'.format
  tags : c.tags = c'.tags
  sort : c.sort = c'.sort

theorem Criteria.SameListing.refl (c : Criteria) : c.SameListing c :=
  ⟨rfl, rfl, rfl, rfl⟩

theorem Criteria.SameListing.trans {c c' c'' : Criteria} (h : c.SameListing c')
    (h' : c'.SameListing c'') : c.SameListing c'' :=
  ⟨h.query.trans h'.query, h.format.trans h'.format, h.tags.trans h'.tags, h.sort.trans h'.sort⟩

/-- Criteria that agree on everything but the way tags combine select the same records in the same
order, unless they select different tags. -/
theorem select_eq_of_sameListing {c c' : Criteria} (h : c.SameListing c')
    (hlogic : c.tagLogic = c'.tagLogic ∨ ∀ t ∈ c'.tags, ∀ u ∈ c'.tags, t = u) (rs : List Record) :
    select rs c = select rs c' := by
  have htags : ∀ matching : List Record, Selection.byTags matching c'.tags c.tagLogic =
      Selection.byTags matching c'.tags c'.tagLogic := by
    intro matching
    rcases hlogic with hsame | hone
    · rw [hsame]
    · exact Selection.byTags_logic hone matching _ _
  simp only [select, Selection.narrow, h.query, h.format, h.tags, h.sort, htags]

namespace Browser

/-- What a user can do with a browser. -/
inductive Step where
  | update (changes : Changes)
  | toggleTag (tag : String)
  | clearFilters
  | goTo (page : Int)
  deriving DecidableEq, Repr

/-- The browser after one step. -/
def step (b : Browser) : Step → Browser
  | .update changes => b.update changes
  | .toggleTag tag => b.toggleTag tag
  | .clearFilters => b.clearFilters
  | .goTo page => b.goTo page

/-- The browser after some steps. -/
def run (b : Browser) (steps : List Step) : Browser :=
  steps.foldl step b

/-- A browser as it is opened, on a query or on the whole library. -/
def opened : Option String → Browser
  | some query => ofQuery query
  | none => {}

@[simp] theorem run_nil (b : Browser) : b.run [] = b := rfl

/-- Some steps and then some more are one run. -/
theorem run_append (b : Browser) (steps more : List Step) :
    b.run (steps ++ more) = (b.run steps).run more :=
  List.foldl_append

/-- The last step is taken where those before it have led. -/
theorem run_concat (b : Browser) (steps : List Step) (s : Step) :
    b.run (steps ++ [s]) = (b.run steps).step s :=
  run_append b steps [s]

/-- What every step keeps is kept by all of them. -/
theorem run_invariant {P : Browser → Prop} (hstep : ∀ b s, P b → P (b.step s)) {b : Browser}
    (h : P b) (steps : List Step) : P (b.run steps) := by
  induction steps using List.reverseRecOn with
  | nil => exact h
  | append_singleton steps s ih =>
      rw [run_concat]
      exact hstep _ s ih

/-- Some steps after a step, which itself comes after some. -/
theorem run_run_concat (b : Browser) (before after : List Step) (s : Step) :
    (b.run (before ++ [s])).run after = b.run (before ++ s :: after) := by
  rw [← run_append, List.append_assoc, List.singleton_append]

/-- A browser opens on the first page. -/
@[simp] theorem opened_page (query : Option String) : (opened query).page = 1 := by
  cases query <;> rfl

/-- The page is kept as long as the listing is. -/
theorem keepsPage_iff {c c' : Criteria} : keepsPage c c' = true ↔ c.SameListing c' := by
  simp only [keepsPage, Bool.and_eq_true, decide_eq_true_eq]
  exact ⟨fun h => ⟨h.1.1.1, h.1.1.2, h.1.2, h.2⟩, fun h => ⟨⟨⟨h.query, h.format⟩, h.tags⟩, h.sort⟩⟩

/-- New criteria keep the page and the listing, or lead to the first page. -/
theorem withCriteria_cases (b : Browser) (c : Criteria) :
    (b.withCriteria c).page = 1 ∨
      (b.withCriteria c).page = b.page ∧ b.criteria.SameListing (b.withCriteria c).criteria := by
  unfold withCriteria
  split
  · next hkept => exact Or.inr ⟨rfl, keepsPage_iff.mp hkept⟩
  · exact Or.inl rfl

/-- **What a step can do.**  It moves to a page; or it is another step, and then it leads to the
first page or keeps the page and the listing. -/
theorem step_cases (b : Browser) (s : Step) :
    (∃ page, s = .goTo page) ∨ (∀ page, s ≠ .goTo page) ∧ ((b.step s).page = 1 ∨
      (b.step s).page = b.page ∧ b.criteria.SameListing (b.step s).criteria) := by
  cases s with
  | update changes => exact Or.inr ⟨by simp, withCriteria_cases b _⟩
  | toggleTag tag => exact Or.inr ⟨by simp, withCriteria_cases b _⟩
  | clearFilters => exact Or.inr ⟨by simp, withCriteria_cases b _⟩
  | goTo page => exact Or.inl ⟨page, rfl⟩

/-- The page that is moved to, unless it is the first one, is the one that was asked for. -/
theorem eq_of_goTo_page {b : Browser} {page : Int} (h : 1 < (b.goTo page).page) :
    page = (b.goTo page).page := by
  simp only [goTo] at h ⊢
  omega

/-- Every step leads to a page. -/
theorem step_page_pos {b : Browser} (h : 1 ≤ b.page) (s : Step) : 1 ≤ (b.step s).page := by
  rcases step_cases b s with ⟨page, rfl⟩ | ⟨-, hfirst | ⟨hkept, -⟩⟩
  · simp only [step, goTo]
    omega
  · omega
  · omega

/-- No step leads to a page below the first one. -/
theorem run_page_pos {b : Browser} (h : 1 ≤ b.page) (steps : List Step) :
    1 ≤ (b.run steps).page :=
  run_invariant (P := fun b => 1 ≤ b.page) (fun _ s hpage => step_page_pos hpage s) h steps

/-- Steps after a move to a page that neither move to another page nor change the listing at any
time. -/
structure StaysOn (b : Browser) (after : List Step) : Prop where
  /-- There is no other move among them. -/
  noMove : ∀ page, .goTo page ∉ after
  /-- Whatever part of them has been made, the listing is the same. -/
  sameListing : ∀ part, part <+: after → b.criteria.SameListing (b.run part).criteria

theorem staysOn_nil (b : Browser) : StaysOn b [] where
  noMove := by simp
  sameListing part hpart := by
    rw [List.prefix_nil.mp hpart]
    exact .refl _

/-- One more step without a move or a change of the listing. -/
theorem StaysOn.concat {b : Browser} {after : List Step} {s : Step} (h : StaysOn b after)
    (hmove : ∀ page, s ≠ .goTo page)
    (hsame : (b.run after).criteria.SameListing ((b.run after).step s).criteria) :
    StaysOn b (after ++ [s]) where
  noMove page hpage := by
    rcases List.mem_append.mp hpage with hafter | hlast
    · exact h.noMove page hafter
    · exact hmove page (List.mem_singleton.mp hlast).symm
  sameListing part hpart := by
    rcases List.prefix_concat_iff.mp hpart with rfl | hearlier
    · rw [run_concat]
      exact (h.sameListing after (List.prefix_refl after)).trans hsame
    · exact h.sameListing part hearlier

/-- A browser on a page other than the first one has been sent there and has stayed. -/
theorem exists_staysOn {start : Browser} (hstart : start.page = 1) {steps : List Step}
    (h : 1 < (start.run steps).page) :
    ∃ before after, steps = before ++ .goTo (start.run steps).page :: after ∧
      StaysOn (start.run (before ++ [.goTo (start.run steps).page])) after := by
  induction steps using List.reverseRecOn with
  | nil =>
      rw [run_nil] at h
      omega
  | append_singleton steps s ih =>
      rw [run_concat] at h ⊢
      rcases step_cases (start.run steps) s with ⟨page, rfl⟩ | ⟨hmove, hfirst | ⟨hkept, hsame⟩⟩
      · have hpage := eq_of_goTo_page h
        refine ⟨steps, [], ?_, staysOn_nil _⟩
        simp only [step, ← hpage]
      · omega
      · rw [hkept] at h ⊢
        obtain ⟨before, after, hsteps, hstays⟩ := ih h
        have hrun : (start.run (before ++ [.goTo (start.run steps).page])).run after =
            start.run steps := by
          rw [run_run_concat, ← hsteps]
        refine ⟨before, after ++ [s], ?_, hstays.concat hmove (hrun.symm ▸ hsame)⟩
        rw [← List.cons_append, ← List.append_assoc, ← hsteps]

/-- The listing at the end of the steps. -/
theorem StaysOn.sameListing_run {b : Browser} {after : List Step} (h : StaysOn b after) :
    b.criteria.SameListing (b.run after).criteria :=
  h.sameListing after (List.prefix_refl after)

/-- **The history of a page.**  Whatever steps are taken from a browser that has just been opened,
it shows a page, and a page other than the first one was moved to by a step after which there was no
other move, and at no time since another query, format, selection of tags or order.  So the results
are those that were shown at that move, unless tags now combine otherwise and different tags are
selected. -/
theorem page_history (query : Option String) (steps : List Step) :
    1 ≤ ((opened query).run steps).page ∧
      (1 < ((opened query).run steps).page →
        ∃ before after moved shown,
          steps = before ++ .goTo shown.page :: after ∧
          (opened query).run (before ++ [.goTo shown.page]) = moved ∧
          (opened query).run steps = shown ∧
          StaysOn moved after ∧
          ∀ rs : List Record,
            ¬ (shown.criteria.tagLogic ≠ moved.criteria.tagLogic ∧
                ∃ t ∈ shown.criteria.tags, ∃ u ∈ shown.criteria.tags, t ≠ u) →
              select rs shown.criteria = select rs moved.criteria) := by
  have hstart := opened_page query
  generalize opened query = start at hstart ⊢
  refine ⟨run_page_pos (by omega) steps, fun hpage => ?_⟩
  obtain ⟨before, after, hsteps, hstays⟩ := exists_staysOn hstart hpage
  refine ⟨before, after, _, _, hsteps, rfl, rfl, hstays, fun rs hsame => ?_⟩
  have hlisting := hstays.sameListing_run
  rw [run_run_concat, ← hsteps] at hlisting
  refine (select_eq_of_sameListing hlisting ?_ rs).symm
  by_contra hdiffer
  push Not at hdiffer
  exact hsame ⟨hdiffer.1.symm, hdiffer.2⟩

/-- Combining tags in another way keeps the page. -/
example : ((opened (some "war")).run [.toggleTag "epic", .goTo 3,
    .update { tagLogic := some .any }]).page = 3 := by decide

end Browser

end Catalogue
