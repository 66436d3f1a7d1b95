import EvServer.Lib.Documents

/-!
# Unique indexes

A unique index lets a document be saved only when no other document has its value.  A
collection that has been written to under the index has at most one document for a value.
-/

universe u v w

namespace Collection

variable {K : Type u} {V : Type v} {I : Type w} {key : V → K} {index : V → I}
variable {c : Collection key} {doc d : V} {i : I}

/-- Documents of one value are the same document. -/
def Unique (index : V → I) (c : Collection key) : Prop :=
  ∀ d ∈ c.docs, ∀ d' ∈ c.docs, index d = index d' → key d = key d'

/-- The value of the document is the one of another document. -/
def Clashes (index : V → I) (doc : V) (c : Collection key) : Prop :=
  ∃ d ∈ c.docs, key d ≠ key doc ∧ index d = index doc

instance [DecidableEq K] [DecidableEq I] : Decidable (c.Clashes index doc) :=
  inferInstanceAs (Decidable (∃ d ∈ c.docs, key d ≠ key doc ∧ index d = index doc))

/-- **What the index lets through keeps the collection unique.** -/
theorem Unique.save [DecidableEq K] (unique : c.Unique index) (free : ¬ c.Clashes index doc) :
    (c.save doc).Unique index := by
  intro d mem d' mem' same
  rcases mem_save_of_ne mem with rfl | ⟨old, other⟩ <;>
    rcases mem_save_of_ne mem' with rfl | ⟨old', other'⟩
  · rfl
  · exact absurd ⟨d', old', other', same.symm⟩ free
  · exact absurd ⟨d, old, other, same⟩ free
  · exact unique d old d' old' same

/-- Changes that leave the values alone keep the collection unique. -/
theorem Unique.updateMany (unique : c.Unique index) {f : V → V} (keeps : ∀ d, key (f d) = key d)
    (same : ∀ d, index (f d) = index d) : (c.updateMany f keeps).Unique index := by
  intro d mem d' mem' equal
  obtain ⟨old, hold, rfl⟩ := mem_updateMany.mp mem
  obtain ⟨old', hold', rfl⟩ := mem_updateMany.mp mem'
  rw [same, same] at equal
  rw [keeps, keeps]
  exact unique old hold old' hold' equal

/-- The documents of a value are at most one. -/
theorem Unique.filter_eq [DecidableEq I] (unique : c.Unique index) (mem : d ∈ c.docs) :
    (c.docs.filter fun d' => index d' = index d) = [d] := by
  have := Classical.decEq K
  rw [← filter_key_eq (find_of_mem mem)]
  refine List.filter_congr fun d' mem' => ?_
  have iff : index d' = index d ↔ key d' = key d :=
    ⟨unique d' mem' d mem, fun same => congrArg index (eq_of_key_eq mem' mem same)⟩
  simp [iff]

end Collection
