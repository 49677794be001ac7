import AddonRegistry.Proofs.Body
import AddonRegistry.Proofs.Extraction.Generated

/-!
# What the imports of a registry bind

A declaration names a type, and the import lines say which file that type is from.  They are told apart
as whole lines: so two files that register types of one name are both imported under it, and then no
declaration with that name says which of the two is meant.

* `Body.Binds` — that an import line binds a name to what a path exports under it.
* `importLineOf_inj` — a line tells what it was made from.
* `binds_iff` — which names are bound to which paths.
* **`declarations_resolve_iff`** — a declaration means the type of its file exactly if no other file with
  another import path registers a type of the same name.
* `shared_name_is_bound_twice` — two files that do.
-/

namespace AddonRegistry

/-- That an import line of a registry binds a name to what a path exports under it. -/
def Body.Binds (body : Body) (target path : String) : Prop :=
  importLineOf (target, path) ∈ body.imports

instance (body : Body) (target path : String) : Decidable (body.Binds target path) :=
  inferInstanceAs (Decidable (_ ∈ _))

/-! ## The name in a line -/

/-- What stands in front of the first space of a text does not depend on what follows the space. -/
lemma takeWhile_append_space (text rest : List Char) :
    (text ++ ' ' :: rest).takeWhile (· ≠ ' ') = text.takeWhile (· ≠ ' ') := by
  induction text with
  | nil => rfl
  | cons c text ih =>
      rw [List.cons_append, List.takeWhile_cons, List.takeWhile_cons, ih]

lemma takeWhile_of_spaceless {text : List Char} (h : ' ' ∉ text) : text.takeWhile (· ≠ ' ') = text :=
  List.takeWhile_eq_self_iff.mpr fun _ hc => decide_eq_true fun he => h (he ▸ hc)

/-- A line binds one name without spaces, and it is known from any reading of the line. -/
lemma name_of_importLineOf_eq {target path name other : String} (hspace : ' ' ∉ target.toList)
    (h : importLineOf (target, path) = importLineOf (name, other)) :
    target.toList = name.toList.takeWhile (· ≠ ' ') := by
  have hlists := congrArg String.toList h
  rw [toList_importLineOf, toList_importLineOf] at hlists
  simp only [List.append_cancel_left_eq, List.cons.injEq, true_and] at hlists
  have hname := congrArg (List.takeWhile (· ≠ ' ')) hlists
  rwa [takeWhile_append_space, takeWhile_append_space, takeWhile_of_spaceless hspace] at hname

/-- A line that binds a name binds it to one path. -/
lemma path_eq_of_importLineOf_eq {target path other : String}
    (h : importLineOf (target, path) = importLineOf (target, other)) : path = other := by
  have hlists := congrArg String.toList h
  rw [toList_importLineOf, toList_importLineOf] at hlists
  simp only [List.append_cancel_left_eq, List.cons.injEq, true_and, List.append_cancel_right_eq]
    at hlists
  exact String.toList_inj.mp hlists

/-- **A line tells** the name and the path that it was made from, if there is no space in the name. -/
lemma importLineOf_inj {line other : String × String} (hline : ' ' ∉ line.1.toList)
    (hother : ' ' ∉ other.1.toList) : importLineOf line = importLineOf other ↔ line = other := by
  refine ⟨fun h => ?_, congrArg importLineOf⟩
  obtain ⟨target, path⟩ := line
  obtain ⟨name, place⟩ := other
  have hname : target = name :=
    String.toList_inj.mp ((name_of_importLineOf_eq hline h).trans (takeWhile_of_spaceless hother))
  subst hname
  rw [path_eq_of_importLineOf_eq h]

/-! ## Scans -/

variable {scan : Scan} {root : Path} {package target path : String}

/-- What a registry binds is what its files register. -/
lemma binds_iff_exists : (Body.ofScan scan root package).Binds target path ↔
    ∃ entry ∈ scan, ∃ m ∈ entry.2,
      importLineOf (m.target, importPath entry.1 root package) = importLineOf (target, path) := by
  rw [Body.Binds, mem_imports_ofScan]
  rfl

/-- Which names are bound to which paths, if there is no space in any name. -/
lemma binds_iff (htargets : ∀ entry ∈ scan, ∀ m ∈ entry.2, ' ' ∉ m.target.toList)
    (htarget : ' ' ∉ target.toList) : (Body.ofScan scan root package).Binds target path ↔
      ∃ entry ∈ scan, ∃ m ∈ entry.2, m.target = target ∧ importPath entry.1 root package = path := by
  rw [binds_iff_exists]
  refine exists_congr fun entry => and_congr_right fun he => exists_congr fun m =>
    and_congr_right fun hm => ?_
  rw [importLineOf_inj (htargets entry he m hm) htarget, Prod.mk.injEq]

/-- **A declaration means the type of its file** exactly if no other file with another import path
registers a type of the same name.  Every file that registers something is imported; but lines that
differ in their path only are both there, so the names of a registry are bound once only if files that
register types of one name are imported from the same path. -/
theorem declarations_resolve_iff (scan : Scan) (root : Path) (package : String)
    (htargets : ∀ entry ∈ scan, ∀ m ∈ entry.2, ' ' ∉ m.target.toList) :
    ((∀ target path other, (Body.ofScan scan root package).Binds target path →
        (Body.ofScan scan root package).Binds target other → path = other) ↔
      ∀ entry ∈ scan, ∀ other ∈ scan, ∀ m ∈ entry.2, ∀ n ∈ other.2, m.target = n.target →
        importPath entry.1 root package = importPath other.1 root package) ∧
    ∀ entry ∈ scan, ∀ m ∈ entry.2,
      m.declarationLine ∈ (Body.ofScan scan root package).declarations ∧
      (Body.ofScan scan root package).Binds m.target (importPath entry.1 root package) ∧
      ((∀ path, (Body.ofScan scan root package).Binds m.target path →
          path = importPath entry.1 root package) ↔
        ∀ other ∈ scan, ∀ n ∈ other.2, n.target = m.target →
          importPath other.1 root package = importPath entry.1 root package) := by
  have hbinds : ∀ entry ∈ scan, ∀ m ∈ entry.2,
      (Body.ofScan scan root package).Binds m.target (importPath entry.1 root package) :=
    fun entry he m hm => (binds_iff htargets (htargets entry he m hm)).mpr ⟨entry, he, m, hm, rfl, rfl⟩
  refine ⟨⟨fun h entry he other ho m hm n hn hname => ?_, fun h target path other hp ho => ?_⟩,
    fun entry he m hm => ⟨?_, hbinds entry he m hm, fun h other ho n hn hname => ?_, fun h path hp => ?_⟩⟩
  · exact h n.target _ _ (hname ▸ hbinds entry he m hm) (hbinds other ho n hn)
  · obtain ⟨first, hfirst, m, hm, hm'⟩ := binds_iff_exists.mp hp
    obtain ⟨second, hsecond, n, hn, hn'⟩ := binds_iff_exists.mp ho
    have hname : m.target = n.target := by
      rw [← String.toList_inj, name_of_importLineOf_eq (htargets first hfirst m hm) hm',
        name_of_importLineOf_eq (htargets second hsecond n hn) hn']
    have hpaths := h first hfirst second hsecond m hm n hn hname
    refine path_eq_of_importLineOf_eq (hm'.symm.trans (Eq.trans ?_ hn'))
    rw [hname, hpaths]
  · exact List.mem_flatMap.mpr ⟨entry, he, List.mem_map_of_mem hm⟩
  · exact h _ (hname ▸ hbinds other ho n hn)
  · obtain ⟨other, ho, n, hn, hname, rfl⟩ := (binds_iff htargets (htargets entry he m hm)).mp hp
    exact h other ho n hn hname

/-- Two files, one of which registers a type under two names. -/
def distinctNames : Scan :=
  [(⟨"/p/addon/button.ts"⟩, [⟨"o-s-button", "Button"⟩, ⟨"OSButton", "Button"⟩]),
    (⟨"/p/lib/icon.ts"⟩, [⟨"o-s-icon", "Icon"⟩])]

/-- Types of different names are bound once each. -/
theorem distinct_names_are_bound_once :
    (∀ entry ∈ distinctNames, ∀ m ∈ entry.2, ' ' ∉ m.target.toList) ∧
      ∀ target path other, (Body.ofScan distinctNames ⟨"/p"⟩ "oss").Binds target path →
        (Body.ofScan distinctNames ⟨"/p"⟩ "oss").Binds target other → path = other :=
  ⟨by decide +kernel, (declarations_resolve_iff distinctNames ⟨"/p"⟩ "oss" (by decide +kernel)).1.mpr
    (by decide +kernel)⟩

/-- Two files that register types of one name. -/
def sharedName : Scan :=
  [(⟨"/p/addon/a.ts"⟩, [⟨"a", "Button"⟩]), (⟨"/p/addon/b.ts"⟩, [⟨"b", "Button"⟩])]

/-- A name that two files share is bound to both of them. -/
theorem shared_name_is_bound_twice :
    (Body.ofScan sharedName ⟨"/p"⟩ "pkg").Binds "Button" "pkg/a.ts" ∧
      (Body.ofScan sharedName ⟨"/p"⟩ "pkg").Binds "Button" "pkg/b.ts" ∧ "pkg/a.ts" ≠ "pkg/b.ts" := by
  decide +kernel

end AddonRegistry
