-- Formats with a writer that appends to a list and may refuse, and a reader that
-- takes from the front of one. The reader accepts exactly the encodings of the
-- valid values; the writer appends the encoding where there is room for it.
import Mathlib.Data.List.FinRange
import Mathlib.Data.Fintype.Basic

open List

namespace Codecs

variable {α β : Type} {n limit : Nat} {encode : Fin n → α → List β}

/-- The reader takes a value exactly where its encoding stands and the value is valid. -/
def Decodes (take : List β → Option (α × List β)) (encode : α → List β) (valid : α → Prop) : Prop :=
  ∀ input a rest, take input = some (a, rest) ↔ valid a ∧ input = encode a ++ rest

/-- The writer appends these elements where the list stays within the limit, and no others. -/
structure Appends (limit : Nat) (put : List β → Option (List β)) (bytes : List β) : Prop where
  appends : ∀ out, out.length + bytes.length ≤ limit → put out = some (out ++ bytes)
  only : ∀ out out', put out = some out' → out' = out ++ bytes

/-- The values of an array, one after the other. -/
def put_all (put : Fin n → List β → Option (List β)) (out : List β) : Option (List β) :=
  (List.finRange n).foldlM (fun out i => put i out) out

/-- One turn of the loop that reads an array. -/
def take_next (take : Fin n → List β → Option (α × List β)) (filled : (Fin n → α) × List β)
    (i : Fin n) : Option ((Fin n → α) × List β) :=
  (take i filled.2).map fun taken => (Function.update filled.1 i taken.1, taken.2)

/-- Reads the values of an array into one that is there. -/
def take_all (take : Fin n → List β → Option (α × List β)) (start : Fin n → α) (input : List β) :
    Option ((Fin n → α) × List β) :=
  (List.finRange n).foldlM (take_next take) (start, input)

/-- The encodings of the values of an array, one after the other. -/
def encode_all (encode : Fin n → α → List β) (x : Fin n → α) : List β :=
  (List.finRange n).flatMap fun i => encode i (x i)

theorem put_all_appends {put : Fin n → List β → Option (List β)} {bytes : Fin n → List β}
    (h : ∀ i, Appends limit (put i) (bytes i)) :
    Appends limit (put_all put) ((List.finRange n).flatMap bytes) := by
  unfold put_all
  generalize List.finRange n = is
  induction is with
  | nil =>
    refine ⟨fun out _ => ?_, fun out out' hput => ?_⟩
    · rw [flatMap_nil, append_nil]
      rfl
    · rw [flatMap_nil, append_nil]
      exact (Option.some.inj hput).symm
  | cons i is ih =>
    rw [flatMap_cons]
    refine ⟨fun out hroom => ?_, fun out out' hput => ?_⟩
    · rw [length_append] at hroom
      rw [foldlM_cons, (h i).appends out (by omega), ← append_assoc]
      exact ih.appends _ (by rw [length_append]; omega)
    · obtain ⟨next, hnext, hrest⟩ := Option.bind_eq_some_iff.mp hput
      rw [ih.only _ _ hrest, (h i).only _ _ hnext, append_assoc]

/-- An array is written only if each of its values is. -/
theorem put_all_each {put : Fin n → List β → Option (List β)} {out out' : List β}
    (h : put_all put out = some out') (i : Fin n) :
    ∃ before behind, put i before = some behind := by
  have hmem := mem_finRange i
  unfold put_all at h
  generalize List.finRange n = is at h hmem
  induction is generalizing out with
  | nil => contradiction
  | cons j is ih =>
    obtain ⟨next, hnext, hrest⟩ := Option.bind_eq_some_iff.mp h
    rcases mem_cons.mp hmem with rfl | hmem
    · exact ⟨out, next, hnext⟩
    · exact ih hrest hmem

theorem length_encode_all_le {x : Fin n → α} {c : Nat} (h : ∀ i, (encode i (x i)).length ≤ c) :
    (encode_all encode x).length ≤ n * c := by
  have hsum : ∀ is : List (Fin n),
      (is.flatMap fun i => encode i (x i)).length ≤ is.length * c := by
    intro is
    induction is with
    | nil => simp
    | cons i is ih =>
      have hi := h i
      rw [flatMap_cons, length_append, length_cons, Nat.succ_mul]
      omega
  have hall := hsum (List.finRange n)
  rwa [length_finRange] at hall

/-- Over the indices that are left: those in the list get their value, the others keep theirs. -/
theorem foldlM_take_next {take : Fin n → List β → Option (α × List β)} {valid : Fin n → α → Prop}
    (h : ∀ i, Decodes (take i) (encode i) (valid i)) {is : List (Fin n)} (hnodup : is.Nodup)
    (start : Fin n → α) (input : List β) (x : Fin n → α) (rest : List β) :
    is.foldlM (take_next take) (start, input) = some (x, rest) ↔
      (∀ i, i ∉ is → x i = start i) ∧ (∀ i ∈ is, valid i (x i)) ∧
        input = (is.flatMap fun i => encode i (x i)) ++ rest := by
  induction is generalizing start input with
  | nil =>
    simp only [not_mem_nil, not_false_eq_true, forall_const, false_implies, implies_true, true_and]
    constructor
    · intro heq
      cases heq
      exact ⟨fun _ => rfl, rfl⟩
    · rintro ⟨hsame, rfl⟩
      rw [funext hsame]
      rfl
  | cons i is ih =>
    obtain ⟨hfirst, hnodup⟩ := nodup_cons.mp hnodup
    rw [flatMap_cons, append_assoc]
    constructor
    · intro heq
      obtain ⟨filled, hnext, hrest⟩ := Option.bind_eq_some_iff.mp heq
      obtain ⟨⟨a, behind⟩, htake, rfl⟩ := Option.map_eq_some_iff.mp hnext
      obtain ⟨hvalid, hinput⟩ := (h i _ _ _).mp htake
      obtain ⟨hsame, hvalids, hbehind⟩ := (ih hnodup _ _).mp hrest
      have hx : x i = a := by rw [hsame i hfirst, Function.update_self]
      refine ⟨fun j hj => ?_, fun j hj => ?_, ?_⟩
      · rw [mem_cons, not_or] at hj
        rw [hsame j hj.2, Function.update_of_ne hj.1]
      · rcases mem_cons.mp hj with rfl | hj
        · exact hx ▸ hvalid
        · exact hvalids j hj
      · rw [hx, ← hbehind]
        exact hinput
    · rintro ⟨hsame, hvalids, hinput⟩
      have htake := (h i _ _ _).mpr ⟨hvalids i mem_cons_self, hinput⟩
      refine Option.bind_eq_some_iff.mpr ⟨_, Option.map_eq_some_iff.mpr ⟨_, htake, rfl⟩, ?_⟩
      refine (ih hnodup _ _).mpr ⟨fun j hj => ?_, fun j hj => hvalids j (mem_cons_of_mem _ hj),
        rfl⟩
      by_cases hji : j = i
      · rw [hji, Function.update_self]
      · rw [Function.update_of_ne hji, hsame j (by simp [hji, hj])]

theorem take_all_decodes {take : Fin n → List β → Option (α × List β)} {valid : Fin n → α → Prop}
    (h : ∀ i, Decodes (take i) (encode i) (valid i)) (start : Fin n → α) :
    Decodes (take_all take start) (encode_all encode) fun x => ∀ i, valid i (x i) := by
  intro input x rest
  refine (foldlM_take_next h (nodup_finRange n) start input x rest).trans ?_
  simp only [mem_finRange, not_true_eq_false, false_implies, implies_true, true_and,
    true_implies]
  rfl

end Codecs
