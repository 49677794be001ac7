import AddonRegistry.Proofs.Run.FixedPoint
import AddonRegistry.Proofs.Run.Frame

/-!
# The life of a registry

Between the first run on a project and the last one, many things happen to its files: runs with
other patterns, comparisons, runs that fail, and edits by someone else.  As long as the edits leave
the registry itself alone, what it holds is always known: what it held in the beginning, until the
first run that writes, and from then on what the last such run wrote.

* `Event`, `History` — what happened to the files, the latest first.
* `LastWrote` — the text that the last run to write anything wrote.
* `writes_or_untouched` — one run either writes the registry or leaves it alone.
* `Standing`, `standing` — the registry after everything that happened.
* **`registry_life_cycle`** — what is read at any time, that a registry stays, and when one is created.
-/

namespace AddonRegistry

open FileTree

/-! ## What happens to the files -/

/-- Something that happens to the files of a project: a run, or an edit by someone else. -/
inductive Event where
  | run (options : Options) (before : FileTree)
  | edit (before after : FileTree)

/-- Whether a run that ends in this way has written the registry. -/
def Outcome.Writing : Outcome → Prop
  | .created => True
  | .updated _ _ => True
  | _ => False

/-- Whether an event is a run that wrote the registry. -/
def Event.Writing : Event → Prop
  | .run options before =>
      ∃ outcome, (AddonRegistry.run options before).result = .ok outcome ∧ outcome.Writing
  | .edit _ _ => False

/-- What happened to the files of a project since some time, the latest first, and what has become of
them.  All runs are for the same registry, but they can differ in everything else.  An edit can do
anything but change what the path of the registry shows. -/
inductive History (project : Options) (initial : FileTree) : List Event → FileTree → Prop where
  | start : History project initial [] initial
  | run {past : List Event} {before : FileTree} (hpast : History project initial past before)
      (options : Options) (hroot : options.root = project.root)
      (hregistry : options.registryFile = project.registryFile) :
      History project initial (.run options before :: past) (AddonRegistry.run options before).tree
  | edit {past : List Event} {before : FileTree} (hpast : History project initial past before)
      (after : FileTree) (hseen : after.seen? project.registryPath = before.seen? project.registryPath) :
      History project initial (.edit before after :: past) after

variable {project options : Options} {initial tree before now between : FileTree}
  {text : String} {outcome : Outcome} {past earlier : List Event} {event : Event}

/-- What happened up to some earlier time. -/
lemma History.of_append : ∀ {later : List Event} {now : FileTree},
    History project initial (later ++ past) now → ∃ between, History project initial past between
  | [], now, h => ⟨now, h⟩
  | event :: later, now, h => by
      cases h with
      | run hpast options hroot hregistry => exact hpast.of_append
      | edit hpast after hseen => exact hpast.of_append

/-- That a text is what the last run to write anything wrote. -/
def LastWrote (past : List Event) (text : String) : Prop :=
  ∃ later earlier options before outcome, past = later ++ .run options before :: earlier ∧
    (∀ event ∈ later, ¬ event.Writing) ∧ (run options before).result = .ok outcome ∧
    Writes options before outcome text

lemma LastWrote.cons (h : LastWrote past text) (hevent : ¬ event.Writing) :
    LastWrote (event :: past) text := by
  obtain ⟨later, earlier, options, before, outcome, rfl, hlater, hresult, hwrites⟩ := h
  exact ⟨event :: later, earlier, options, before, outcome, rfl,
    List.forall_mem_cons.mpr ⟨hevent, hlater⟩, hresult, hwrites⟩

/-! ## One run -/

/-- A comparison writes nothing. -/
lemma not_writing_of_checking (h : (run options.checking tree).result = .ok outcome) :
    ¬ outcome.Writing := by
  cases course options tree with
  | unread failure hfound =>
      rw [checking_unread hfound] at h
      cases h
  | absent scan hfound =>
      rw [checking_absent hfound] at h
      cases h
      exact id
  | unnamed scan text failure hfound hbody =>
      rw [checking_unnamed hfound hbody] at h
      cases h
  | present scan text body hfound hbody =>
      rw [checking_present hfound hbody] at h
      split_ifs at h <;> cases h <;> exact id

/-- A run either compares or writes. -/
lemma eq_checking_or_writing (options : Options) :
    options = options.checking ∨ options = options.writing := by
  obtain ⟨patterns, root, registryFile, check, verbose⟩ := options
  cases check
  · exact .inr rfl
  · exact .inl rfl

/-- **One run** writes the registry, or it leaves it alone. -/
lemma writes_or_untouched (options : Options) (tree : FileTree)
    (hup : .up ∉ options.registryPath.steps) :
    (∃ outcome text, (run options tree).result = .ok outcome ∧ Writes options tree outcome text ∧
        (run options tree).tree.readText options.registryPath = .ok text) ∨
      (∀ outcome, (run options tree).result = .ok outcome → ¬ outcome.Writing) ∧
        Untouched options.registryPath tree (run options tree).tree := by
  rcases eq_checking_or_writing options with hmode | hmode
  · right
    rw [hmode, (run_checking options tree).1]
    exact ⟨fun outcome h => not_writing_of_checking h, .refl _ tree⟩
  · rw [hmode]
    cases ending options tree with
    | unread failure hfails hresult htree =>
        right
        rw [hresult, htree]
        exact ⟨fun outcome h => (by cases h), .refl _ tree⟩
    | unwritten failure hwriting habsent hresult hwrite =>
        right
        rw [hresult]
        exact ⟨fun outcome h => (by cases h), (grownBy_writeRegistry hwrite).untouched hup⟩
    | written state outcome text hwrites hstate hcreated hresult hwrite =>
        exact .inl ⟨outcome, text, hresult, hmode ▸ hwrites, readText_writeRegistry hwrite⟩

/-- A registry is created at a path that leads somewhere afterwards, and that showed nothing before. -/
lemma of_created (h : (run options tree).result = .ok .created) :
    readRegistry tree options.registryPath = .ok .absent ∧
      ∃ after place, locate after options.registryPath = .ok place := by
  rcases eq_checking_or_writing options with hmode | hmode
  · rw [hmode] at h
    exact absurd trivial (not_writing_of_checking h)
  · rw [hmode] at h
    cases ending options tree with
    | unread failure hfails hresult htree => cases hresult.symm.trans h
    | unwritten failure hwriting habsent hresult hwrite => cases hresult.symm.trans h
    | written state outcome text hwrites hstate hcreated hresult hwrite =>
        cases hresult.symm.trans h
        obtain ⟨place, hreplaced⟩ := replaced_writeRegistry hwrite
        rw [hcreated.mpr rfl] at hstate
        exact ⟨hstate, _, place, hreplaced.located⟩

/-! ## One after the other -/

/-- What the latest event was, and what it did to the registry. -/
lemma History.latest (hup : .up ∉ project.registryPath.steps)
    (h : History project initial (event :: past) now) :
    ∃ before, History project initial past before ∧
      ((∃ options outcome text, event = .run options before ∧
          (AddonRegistry.run options before).result = .ok outcome ∧
          Writes options before outcome text ∧ now.readText project.registryPath = .ok text) ∨
        ¬ event.Writing ∧ Untouched project.registryPath before now) := by
  cases h with
  | run hpast options hroot hregistry =>
      have hpath : options.registryPath = project.registryPath := by
        rw [Options.registryPath, Options.registryPath, hroot, hregistry]
      rw [← hpath] at hup ⊢
      refine ⟨_, hpast, ?_⟩
      rcases writes_or_untouched options _ hup with ⟨outcome, text, hwritten⟩ | ⟨hnone, huntouched⟩
      · exact .inl ⟨options, outcome, text, rfl, hwritten⟩
      · refine .inr ⟨?_, huntouched⟩
        rintro ⟨outcome, hresult, hwriting⟩
        exact hnone outcome hresult hwriting
  | edit hpast after hseen => exact ⟨_, hpast, .inr ⟨id, .of_seen?_eq hseen⟩⟩

/-- The registry after everything that happened: nothing was written and it was left alone, or it
holds what was written last. -/
inductive Standing (project : Options) (initial : FileTree) (past : List Event) (now : FileTree) :
    Prop where
  | untouched (hnone : ∀ event ∈ past, ¬ event.Writing)
      (huntouched : Untouched project.registryPath initial now)
  | written (text : String) (hlast : LastWrote past text)
      (hread : now.readText project.registryPath = .ok text)

/-- **At any time** the registry is left alone so far, or holds what was written last. -/
lemma standing (hup : .up ∉ project.registryPath.steps) :
    ∀ {past : List Event} {now : FileTree}, History project initial past now →
      Standing project initial past now
  | [], now, h => by
      cases h
      exact .untouched (by simp) (.refl _ _)
  | event :: past, now, h => by
      obtain ⟨before, hpast, hevent⟩ := h.latest hup
      rcases hevent with ⟨options, outcome, text, rfl, hresult, hwrites, hread⟩ | ⟨hnot, huntouched⟩
      · exact .written text ⟨[], past, options, before, outcome, rfl, by simp, hresult, hwrites⟩ hread
      · cases standing hup hpast with
        | untouched hnone hbefore =>
            exact .untouched (List.forall_mem_cons.mpr ⟨hnot, hnone⟩) (hbefore.trans huntouched)
        | written text hlast hread =>
            exact .written text (hlast.cons hnot) ((huntouched.readText text).mpr hread)

/-- What happened tells what has become of the files. -/
lemma History.unique : ∀ {past : List Event} {now other : FileTree},
    History project initial past now → History project initial past other → now = other
  | [], now, other, h, hother => by
      cases h
      cases hother
      rfl
  | event :: past, now, other, h, hother => by
      cases h <;> cases hother <;> rfl

/-- A registry that is there stays there, with this text or another one. -/
lemma present_of_append (hup : .up ∉ project.registryPath.steps)
    (hearlier : History project initial earlier between)
    (hpresent : between.readText project.registryPath = .ok text) :
    ∀ {later : List Event} {now : FileTree}, History project initial (later ++ earlier) now →
      ∃ text, now.readText project.registryPath = .ok text
  | [], now, h => ⟨text, by rw [h.unique hearlier, hpresent]⟩
  | event :: later, now, h => by
      obtain ⟨before, hpast, hevent⟩ := h.latest hup
      rcases hevent with ⟨options, outcome, new, -, -, -, hread⟩ | ⟨-, huntouched⟩
      · exact ⟨new, hread⟩
      · obtain ⟨old, hold⟩ := present_of_append hup hearlier hpresent hpast
        exact ⟨old, (huntouched.readText old).mpr hold⟩

/-- A registry is created only where none was seen from the beginning. -/
lemma initial_of_created (hup : .up ∉ project.registryPath.steps)
    (h : History project initial (.run options before :: past) now)
    (hcreated : (run options before).result = .ok .created) :
    (∀ event ∈ past, ¬ event.Writing) ∧
      (readRegistry initial project.registryPath = .ok .absent ∨
        readRegistry initial project.registryPath =
          .error (.registryFile project.registryPath .notAFolder)) := by
  cases h with
  | run hpast _ hroot hregistry =>
    have hpath : options.registryPath = project.registryPath := by
      rw [Options.registryPath, Options.registryPath, hroot, hregistry]
    obtain ⟨habsent, after, place, hl⟩ := of_created hcreated
    rw [hpath] at habsent hl
    have hmissing := readRegistry_eq_absent.mp habsent
    cases standing hup hpast with
    | written text hlast hread => cases hmissing.symm.trans hread
    | untouched hnone huntouched =>
        have hunseen : initial.seen? project.registryPath = none := by
          by_contra hsome
          have hkept := huntouched.kept (Option.isSome_iff_ne_none.mpr hsome)
          rw [seen?_of_readText_notFound hmissing] at hkept
          cases hkept
        obtain ⟨fault, hfind⟩ := seen?_eq_none.mp hunseen
        have hread := readText_of_find hfind
        refine ⟨hnone, ?_⟩
        rcases find_eq_error_of_locate hl hfind with rfl | rfl
        · exact .inl (readRegistry_eq_absent.mpr hread)
        · right
          rw [readRegistry, hread]

/-- **The life of a registry** whose path never goes up, over everything that happens to a project.  At
any time, what is read there is what was read in the beginning, or there is none, and then no run has
written yet; or it is what the last run wrote that wrote anything.  A registry that is there stays
there.  And a run creates one only if no run has written before: so it is created at most once and
never after an update, and only if there was none in the beginning, or a file in the place of a folder
on the way. -/
theorem registry_life_cycle (hup : .up ∉ project.registryPath.steps)
    (h : History project initial past now) :
    (∀ state, readRegistry now project.registryPath = .ok state →
      (∀ event ∈ past, ¬ event.Writing) ∧
          (state = .absent ∨ readRegistry initial project.registryPath = .ok state) ∨
        ∃ text, state = .present text ∧ LastWrote past text) ∧
    (∀ later earlier between text, past = later ++ earlier →
      History project initial earlier between →
      readRegistry between project.registryPath = .ok (.present text) →
      ∃ text, readRegistry now project.registryPath = .ok (.present text)) ∧
    ∀ later earlier options before, past = later ++ .run options before :: earlier →
      (run options before).result = .ok .created →
      (∀ event ∈ earlier, ¬ event.Writing) ∧
        (readRegistry initial project.registryPath = .ok .absent ∨
          readRegistry initial project.registryPath =
            .error (.registryFile project.registryPath .notAFolder)) := by
  refine ⟨fun state hstate => ?_, fun later earlier between text hpast hbetween hpresent => ?_,
    fun later earlier options before hpast hcreated => ?_⟩
  · cases standing hup h with
    | untouched hnone huntouched =>
        refine .inl ⟨hnone, ?_⟩
        cases state with
        | absent => exact .inl rfl
        | present text =>
            right
            rw [readRegistry_eq_present] at hstate ⊢
            exact (huntouched.readText text).mp hstate
    | written text hlast hread =>
        cases (readRegistry_eq_present.mpr hread).symm.trans hstate
        exact .inr ⟨text, rfl, hlast⟩
  · subst hpast
    simp only [readRegistry_eq_present] at hpresent ⊢
    exact present_of_append hup hbetween hpresent h
  · subst hpast
    obtain ⟨between, hcourse⟩ := h.of_append
    exact initial_of_created hup hcourse hcreated

/-- The sample project without a registry. -/
def newProject : FileTree where
  root := .folder [
    ("package.json", .file "\x7b\"name\": \"p\"\x7d".toUTF8),
    ("addon", .folder [("x.ts", .file sampleSource.toUTF8)])]
  here := []

/-- The registry of the sample project is created by one run, and updated by the next. -/
theorem new_project_is_created_and_updated :
    (run sampleOptions newProject).result = .ok .created ∧
      (run sampleOptions (run sampleOptions newProject).tree).result = .ok (.updated 1 1) ∧
      readRegistry newProject sampleOptions.registryPath = .ok .absent ∧
      ∃ text, readRegistry (run sampleOptions (run sampleOptions newProject).tree).tree
          sampleOptions.registryPath = .ok (.present text) ∧
        LastWrote [.run sampleOptions (run sampleOptions newProject).tree,
          .run sampleOptions newProject] text := by
  have hcreated : (run sampleOptions newProject).result = .ok .created :=
    eq_ok_of_toOption (by decide +kernel)
  have hupdated : (run sampleOptions (run sampleOptions newProject).tree).result =
      .ok (.updated 1 1) := eq_ok_of_toOption (by decide +kernel)
  have hstub : readRegistry (run sampleOptions newProject).tree sampleOptions.registryPath =
      .ok (.present stub) := eq_ok_of_toOption (by decide +kernel)
  have hfirst : History sampleOptions newProject [.run sampleOptions newProject]
      (run sampleOptions newProject).tree := History.start.run sampleOptions rfl rfl
  obtain ⟨hread, hstays, hnew⟩ :=
    registry_life_cycle (by decide +kernel) (hfirst.run sampleOptions rfl rfl)
  obtain ⟨text, htext⟩ := hstays [_] _ _ _ rfl hfirst hstub
  refine ⟨hcreated, hupdated, ?_, text, htext, ?_⟩
  · exact (hnew [_] [] _ _ rfl hcreated).2.resolve_right (by decide +kernel)
  · rcases hread _ htext with ⟨hnone, -⟩ | ⟨last, hlast, hwrote⟩
    · exact absurd ⟨_, hupdated, trivial⟩ (hnone _ List.mem_cons_self)
    · cases hlast
      exact hwrote

/-- A project with a file in the place of the folder of its registry. -/
def blockedProject : FileTree where
  root := .folder [
    ("package.json", .file "\x7b\"name\": \"p\"\x7d".toUTF8),
    ("addon", .file ByteArray.empty)]
  here := []

/-- The same project without that file. -/
def clearedProject : FileTree where
  root := .folder [("package.json", .file "\x7b\"name\": \"p\"\x7d".toUTF8)]
  here := []

def blockedOptions : Options where
  patterns := ["src/*.ts"]
  root := ⟨"."⟩

/-- A registry can be created although reading it fails in the beginning: where a file stands in the
place of its folder, until someone removes the file. -/
theorem created_where_a_file_stood :
    .up ∉ blockedOptions.registryPath.steps ∧
      (∀ place, blockedProject.FolderAt place → clearedProject.FolderAt place) ∧
      History blockedOptions blockedProject
        [.run blockedOptions clearedProject, .edit blockedProject clearedProject]
        (run blockedOptions clearedProject).tree ∧
      (run blockedOptions clearedProject).result = .ok .created ∧
      readRegistry blockedProject blockedOptions.registryPath ≠ .ok .absent := by
  have hbefore : blockedProject.seen? blockedOptions.registryPath = none :=
    Option.isNone_iff_eq_none.mp (by decide +kernel)
  have hafter : clearedProject.seen? blockedOptions.registryPath = none :=
    Option.isNone_iff_eq_none.mp (by decide +kernel)
  have hcleared : History blockedOptions blockedProject [.edit blockedProject clearedProject]
      clearedProject := History.start.edit clearedProject (hafter.trans hbefore.symm)
  refine ⟨by decide +kernel, ?_, hcleared.run blockedOptions rfl rfl,
    eq_ok_of_toOption (by decide +kernel), by decide +kernel⟩
  rintro (_ | ⟨name, rest⟩) ⟨entries, he⟩
  · exact ⟨_, rfl⟩
  · have hfile : ∀ child, [("package.json", Node.file "\x7b\"name\": \"p\"\x7d".toUTF8),
        ("addon", .file ByteArray.empty)].lookup name = some child → ∃ bytes, child = .file bytes := by
      intro child hc
      simp only [List.lookup_cons, List.lookup_nil] at hc
      split at hc
      · cases hc
        exact ⟨_, rfl⟩
      · split at hc <;> cases hc
        exact ⟨_, rfl⟩
    rw [blockedProject, Node.get?_folder_cons, Option.bind_eq_some_iff] at he
    obtain ⟨child, hc, hchild⟩ := he
    obtain ⟨bytes, rfl⟩ := hfile child hc
    cases rest <;> simp at hchild

end AddonRegistry
