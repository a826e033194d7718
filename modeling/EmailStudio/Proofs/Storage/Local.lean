import EmailStudio.Proofs.Storage.Tree
import EmailStudio.Proofs.Text.Path
import EmailStudio.Storage.Local

/-!
# Images on disk

A key of plain names leads to the place of these names below the root, whatever the root is. Saving
under a key changes the file at its place and no other, and getting a key gives the file that lies
there.
-/

namespace EmailStudio.LocalStore

variable {store later : LocalStore} {key url : String} {place : List String} {content : Bytes}

/-- The file at a place below the root. -/
def file? (store : LocalStore) (place : List String) : Option Bytes :=
  store.tree.bind (Tree.fileAt? place)

/-- Where a key leads, as it can be computed from its characters. -/
theorem resolve_eq (store : LocalStore) (key : String) : store.resolve key =
    if '\x00' ∈ key.toList then .error .nullCharacter
    else
      let start := if ['/'] <+: key.toList then [] else store.root.reverse
      let path := ((Path.names key).foldl Path.follow start).reverse
      if store.root <+: path then .ok (path.drop store.root.length) else .error .outside := by
  simp only [resolve, Path.absolute, Path.startsWith_slash, String.contains_char_eq,
    decide_eq_true_iff, List.isPrefixOf_iff_prefix]

theorem resolve_of_plain (hnull : '\x00' ∉ key.toList)
    (h : ∀ name ∈ Path.names key, Path.IsPlain name) :
    store.resolve key = .ok (Path.names key) := by
  have hcontains : key.contains '\x00' = false := by
    rw [String.contains_char_eq, decide_eq_false hnull]
  have hroot : store.root.isPrefixOf (store.root ++ Path.names key) = true :=
    List.isPrefixOf_iff_prefix.2 (List.prefix_append _ _)
  rw [resolve, hcontains, if_neg Bool.false_ne_true, Path.absolute_of_plain h]
  dsimp only
  rw [hroot, if_pos rfl, List.drop_left]

theorem save_eq_ok (hplace : store.resolve key = .ok place)
    (h : store.save key content = .ok (later, url)) :
    url = store.urlFor key ∧
      ∀ other, later.file? other = if other = place then some content else store.file? other := by
  obtain ⟨path, hpath, h⟩ := Outcome.bind_eq_ok_iff.1 h
  obtain ⟨tree, hwrite, hsaved⟩ := Outcome.bind_eq_ok_iff.1 h
  cases hplace.symm.trans hpath
  cases hsaved
  exact ⟨rfl, fun other => Tree.fileAt?_write (Outcome.mapError_eq_ok_iff.1 hwrite) other⟩

/-- A later store still has every file as it was. -/
def Extends (store later : LocalStore) : Prop :=
  ∀ place content, store.file? place = some content → later.file? place = some content

theorem Extends.refl (store : LocalStore) : store.Extends store :=
  fun _ _ h => h

theorem Extends.trans {first second third : LocalStore} (h : first.Extends second)
    (h' : second.Extends third) : first.Extends third :=
  fun place content hfile => h' place content (h place content hfile)

/-- A file in a place where there was none. -/
theorem extends_of_file? (hnone : store.file? place = none)
    (h : ∀ other, later.file? other = if other = place then some content else store.file? other) :
    store.Extends later := by
  intro other old hold
  rw [h, if_neg, hold]
  rintro rfl
  cases hnone.symm.trans hold

end EmailStudio.LocalStore
