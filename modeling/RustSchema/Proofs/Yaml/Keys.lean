/-
  RustSchema.Proofs.Yaml.Keys — a mapping read from a text has each key once.

  Entries are put into a mapping one by one, and a key that is there already gets the new value
  in its place (`map_fst_setEntry`); as every key is the same as itself (`sameKey_self`), none
  comes twice (`keysDiffer_oneEach`). Writing out the values of such entries keeps their keys
  (`map_fst_mapM`). So what is made of a node ends in such a mapping or in none, whatever was
  written before (`hasKeysOnce_ofMade`), and the value of a text has each key once
  (`Value.hasKeysOnce_of_ofText`).
-/

import RustSchema.Traced
import RustSchema.Yaml.Value

namespace RustSchema

theorem Double.same_self (x : Double) : x.same x = true := by
  simp [Double.same]

namespace Yaml

theorem Time.same_self (t : Time) : t.same t = true := by
  simp [Time.same]

theorem Scalar.sameKey_self (key : Scalar) : key.sameKey key = true := by
  cases key with
  | float x => exact x.same_self
  | time t => exact t.same_self
  | _ => simp [Scalar.sameKey]

/-! ## Entries -/

section Entries

variable {α β σ : Type}

/-- No two entries have one key. -/
def Value.KeysDiffer (entries : List (Scalar × α)) : Prop := (entries.map (·.1)).Nodup

open Value (KeysDiffer)

/-- A key keeps its place, and a new one goes to the end. -/
theorem map_fst_setEntry (key : Scalar) (v : α) (entries : List (Scalar × α)) :
    (setEntry key v entries).map (·.1) = entries.map (·.1) ∨
      key ∉ entries.map (·.1) ∧
        (setEntry key v entries).map (·.1) = entries.map (·.1) ++ [key] := by
  induction entries with
  | nil => exact .inr ⟨List.not_mem_nil, rfl⟩
  | cons entry rest ih =>
    obtain ⟨k, w⟩ := entry
    by_cases hsame : k.sameKey key = true
    · left
      rw [setEntry, if_pos hsame]
      rfl
    · rw [setEntry, if_neg hsame, List.map_cons, List.map_cons]
      rcases ih with hrest | ⟨hnew, hrest⟩
      · exact .inl (by rw [hrest])
      · have hne : key ≠ k := by
          rintro rfl
          exact hsame key.sameKey_self
        refine .inr ⟨?_, by rw [hrest]; rfl⟩
        simp [hne, hnew]

theorem keysDiffer_setEntry {entries : List (Scalar × α)} (h : KeysDiffer entries)
    (key : Scalar) (v : α) : KeysDiffer (setEntry key v entries) := by
  unfold KeysDiffer at h ⊢
  rcases map_fst_setEntry key v entries with hsame | ⟨hnew, hlonger⟩
  · rwa [hsame]
  · rw [hlonger]
    refine List.nodup_append.mpr ⟨h, by simp, ?_⟩
    intro k hk k' hk'
    rw [List.mem_singleton.mp hk']
    rintro rfl
    exact hnew hk

theorem keysDiffer_oneEach (entries : List (Scalar × α)) : KeysDiffer (oneEach entries) :=
  List.foldlRecOn entries _ List.nodup_nil fun _ h entry _ => keysDiffer_setEntry h entry.1 entry.2

/-- A run over entries that leaves each key as it is leaves all keys. -/
theorem map_fst_mapM {f : Scalar × α → StateM σ (Scalar × β)}
    (h : ∀ entry s, ((f entry).run s).1.1 = entry.1) (entries : List (Scalar × α)) (s : σ) :
    ((entries.mapM f).run s).1.map (·.1) = entries.map (·.1) := by
  induction entries generalizing s with
  | nil => rfl
  | cons entry rest ih =>
    rw [List.mapM_cons]
    show ((f entry).run s).1.1 :: ((rest.mapM f).run ((f entry).run s).2).1.map (·.1) = _
    rw [h, ih, List.map_cons]

theorem keysDiffer_mapM {f : Scalar × α → StateM σ (Scalar × β)}
    (h : ∀ entry s, ((f entry).run s).1.1 = entry.1) {entries : List (Scalar × α)}
    (hd : KeysDiffer entries) (s : σ) : KeysDiffer ((entries.mapM f).run s).1 := by
  unfold KeysDiffer
  rwa [map_fst_mapM h]

end Entries

/-! ## Values of nodes -/

namespace Value

/-- If this is a mapping, it has each of its keys once. -/
def HasKeysOnce : Value → Prop
  | .mapping entries => KeysDiffer entries
  | _ => True

variable {α : Type} {P : Value → Prop}

/-- Whatever was written before, the result has the property. -/
def Gives (P : Value → Prop) (x : StateM (List Nat) Value) : Prop := ∀ s, P (x.run s).1

theorem Gives.bind {x : StateM (List Nat) α} {f : α → StateM (List Nat) Value}
    (h : ∀ a, Gives P (f a)) : Gives P (x >>= f) :=
  fun s => h (x.run s).1 (x.run s).2

theorem Gives.once {x : StateM (List Nat) Value} (hagain : P .again) (h : Gives P x) (n : Nat) :
    Gives P (once n x) := by
  refine Gives.bind fun written => ?_
  split
  · exact fun _ => hagain
  · exact Gives.bind fun _ => h

theorem hasKeysOnce_ofMade (made : Array (Option Made)) (fuel n : Nat) :
    Gives HasKeysOnce (ofMade made fuel n) := by
  cases fuel with
  | zero => exact fun _ => trivial
  | succ fuel =>
    unfold ofMade
    cases made[n]?.join with
    | none => exact fun _ => trivial
    | some m =>
      cases m with
      | scalar s => exact fun _ => trivial
      | mapping entries =>
        refine Gives.once trivial (fun s => ?_) n
        exact keysDiffer_mapM (fun _ _ => rfl) (keysDiffer_oneEach entries) s
      | _ => exact Gives.once trivial (fun _ => trivial) n

end Value

theorem Document.hasKeysOnce_of_toValue {d : Document} {v : Value} (h : d.toValue = .ok v) :
    v.HasKeysOnce := by
  obtain ⟨made, -, hvalue⟩ := Except.bind_eq_ok_iff.mp h
  cases hvalue
  exact Value.hasKeysOnce_ofMade made _ _ []

theorem Value.hasKeysOnce_of_ofText {text : String} {v : Value} (h : Value.ofText text = .ok v) :
    v.HasKeysOnce := by
  obtain ⟨document, -, hvalue⟩ := Except.bind_eq_ok_iff.mp h
  cases document with
  | none =>
    cases hvalue
    trivial
  | some d => exact Document.hasKeysOnce_of_toValue hvalue

end Yaml

end RustSchema
