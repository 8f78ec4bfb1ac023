/-
  RustSchema.Proofs.OptionEntries — what becomes of the options in a text is decided by the
  entries it gives, whatever their order.

  An option reads its own entry and no other: the reading gives a truth value exactly if the
  entries say so (`truthValue_eq_ok_iff`), and fails exactly if they give something else
  (`truthValue_cases`). Where every key is an option, the three readings one after the other
  give the options or name the first one that fails (`options_or_first_wrong`). A key that is no
  option stops everything before that, and of such keys all are listed, by their texts
  (`shownAs_unknownKeys`).

  All of this is said of entries as they are found in a mapping, never of their places; so a
  mapping in another order comes out the same (`ofEntries_perm`).

  `entries_decide_the_options`: the outcome for every value that a text may have. Not every key
  can be shown: an integer of more than `longestNumber` digits cannot (`isLong_iff`), and where
  one of those is no option no keys are listed (`a_key_too_long_to_show_is_not_listed`).
-/

import RustSchema.Options.Read
import RustSchema.Proofs.Yaml.Keys
import Mathlib.Data.List.Nodup
import Mathlib.Data.List.Perm.Basic

namespace RustSchema.Options

open Yaml

/-! ## What entries say -/

/-- The entries of a value; null has none. -/
inductive Holds : Value → List (Scalar × Value) → Prop
  | nothing : Holds (.scalar .null) []
  | mapping (entries : List (Scalar × Value)) : Holds (.mapping entries) entries

/-- The key names one of the options. -/
def IsOption (key : Scalar) : Prop := ∃ name ∈ keys, key = .text name

instance (key : Scalar) : Decidable (IsOption key) :=
  inferInstanceAs (Decidable (∃ name ∈ keys, key = .text name))

def IsTruthValue (v : Value) : Prop := ∃ b, v = .scalar (.bool b)

/-- The option has its own value, or is absent and false. -/
inductive Sets (entries : List (Scalar × Value)) (name : String) : Bool → Prop
  | given {b : Bool} : (.text name, .scalar (.bool b)) ∈ entries → Sets entries name b
  | absent : (∀ v, (.text name, v) ∉ entries) → Sets entries name false

def IsWrong (entries : List (Scalar × Value)) (name : String) : Prop :=
  ∃ v, (.text name, v) ∈ entries ∧ ¬ IsTruthValue v

/-- The first option, in the order of the options, whose value is no truth value. -/
def IsFirstWrong (entries : List (Scalar × Value)) (name : String) : Prop :=
  ∃ before after, keys = before ++ name :: after ∧ IsWrong entries name ∧
    ∀ other ∈ before, ¬ IsWrong entries other

/-- An integer with more digits than are shown. -/
def IsTooLong (key : Scalar) : Prop := ∃ n, key = .int n ∧ Nat.pow 10 longestNumber ≤ n.natAbs

/-- The keys that are no option, shown by their sorted texts: all of them and nothing else. -/
def ShownAs (entries : List (Scalar × Value)) (texts : List String) : Prop :=
  texts.Pairwise (· ≤ ·) ∧
    texts.Perm (((entries.map (·.1)).filter fun key => ¬ IsOption key).map (·.keyText))

variable {label name : String} {entries entries' : List (Scalar × Value)} {key : Scalar}
  {b b' : Bool}

/-! ## Entries with different keys -/

theorem eq_of_keysDiffer (h : Value.KeysDiffer entries) {v v' : Value} (hv : (key, v) ∈ entries)
    (hv' : (key, v') ∈ entries) : v = v' := by
  have hsame := List.inj_on_of_nodup_map h hv hv' rfl
  exact (Prod.mk.injEq _ _ _ _ ▸ hsame).2

theorem Sets.not_isWrong (h : Value.KeysDiffer entries) (hs : Sets entries name b) :
    ¬ IsWrong entries name := by
  rintro ⟨v, hv, hwrong⟩
  cases hs with
  | given hgiven => exact hwrong ⟨b, eq_of_keysDiffer h hv hgiven⟩
  | absent habsent => exact habsent v hv

theorem Sets.unique (h : Value.KeysDiffer entries) (hs : Sets entries name b)
    (hs' : Sets entries name b') : b = b' := by
  cases hs with
  | given hgiven =>
    cases hs' with
    | given hgiven' => simpa using eq_of_keysDiffer h hgiven hgiven'
    | absent habsent => exact absurd hgiven (habsent _)
  | absent habsent =>
    cases hs' with
    | given hgiven => exact absurd hgiven (habsent _)
    | absent => rfl

theorem Sets.perm (h : entries'.Perm entries) (hs : Sets entries' name b) :
    Sets entries name b := by
  cases hs with
  | given hgiven => exact .given (h.mem_iff.mp hgiven)
  | absent habsent => exact .absent fun v hv => habsent v (h.mem_iff.mpr hv)

theorem IsWrong.perm (h : entries'.Perm entries) (hw : IsWrong entries' name) :
    IsWrong entries name := by
  obtain ⟨v, hv, hwrong⟩ := hw
  exact ⟨v, h.mem_iff.mp hv, hwrong⟩

/-! ## One option -/

theorem truthValue_cases (label : String) (entries : List (Scalar × Value)) (name : String) :
    (∃ b, truthValue label entries name = .ok b ∧ Sets entries name b) ∨
      truthValue label entries name = .error (.notATruthValue label name) ∧
        IsWrong entries name := by
  unfold truthValue
  split
  · rename_i hnone
    refine .inl ⟨false, rfl, .absent fun v hv => ?_⟩
    simpa using List.find?_eq_none.mp hnone _ hv
  · rename_i key b hsome
    have hkey : key = .text name := by simpa using List.find?_some hsome
    exact .inl ⟨b, rfl, .given (hkey ▸ List.mem_of_find?_eq_some hsome)⟩
  · rename_i entry hbool hsome
    obtain ⟨key, v⟩ := entry
    have hkey : key = .text name := by simpa using List.find?_some hsome
    refine .inr ⟨rfl, v, hkey ▸ List.mem_of_find?_eq_some hsome, ?_⟩
    rintro ⟨b, rfl⟩
    exact hbool key b rfl

theorem truthValue_eq_ok_iff (h : Value.KeysDiffer entries) :
    truthValue label entries name = .ok b ↔ Sets entries name b := by
  rcases truthValue_cases label entries name with ⟨b', hread, hsets⟩ | ⟨hread, hwrong⟩
  · rw [hread, Except.ok.injEq]
    exact ⟨fun heq => heq ▸ hsets, fun hs => hsets.unique h hs⟩
  · rw [hread]
    constructor
    · intro heq
      cases heq
    · intro hs
      exact absurd hwrong (hs.not_isWrong h)

theorem truthValue_perm (h : entries'.Perm entries) (hd : Value.KeysDiffer entries) :
    truthValue label entries' name = truthValue label entries name := by
  rcases truthValue_cases label entries' name with ⟨b, hread, hsets⟩ | ⟨hread, hwrong⟩
  · rw [hread, (truthValue_eq_ok_iff hd).mpr (hsets.perm h)]
  · rcases truthValue_cases label entries name with ⟨b, -, hsets⟩ | ⟨hread', -⟩
    · exact absurd (hwrong.perm h) (hsets.not_isWrong hd)
    · rw [hread, hread']

/-! ## Unknown keys -/

theorem isKnown_iff : isKnown key = true ↔ IsOption key := by
  cases key <;> simp [isKnown, IsOption]

theorem unknown_eq (entries : List (Scalar × Value)) :
    unknown entries = (entries.map (·.1)).filter fun key => ¬ IsOption key := by
  refine List.filter_congr fun key _ => ?_
  by_cases hkey : IsOption key
  · simp [hkey, isKnown_iff.mpr hkey]
  · simp [hkey, mt isKnown_iff.mp hkey]

theorem unknown_eq_nil_iff : unknown entries = [] ↔ ∀ entry ∈ entries, IsOption entry.1 := by
  rw [unknown_eq]
  simp

theorem lt_length_toString_iff {k : Nat} (hk : 0 < k) (n : Nat) :
    k < (toString n).length ↔ Nat.pow 10 k ≤ n := by
  show k < n.repr.length ↔ 10 ^ k ≤ n
  rw [← Nat.not_le, Nat.length_repr_le_iff hk, Nat.not_lt]

theorem isLong_iff : key.isLong = true ↔ IsTooLong key := by
  cases key with
  | int n =>
    rw [Scalar.isLong, decide_eq_true_iff, lt_length_toString_iff (by decide)]
    constructor
    · exact fun h => ⟨n, rfl, h⟩
    · rintro ⟨m, hm, h⟩
      cases hm
      exact h
  | _ => simp [Scalar.isLong, IsTooLong]

theorem any_isLong_iff : (unknown entries).any (·.isLong) = true ↔
    ∃ entry ∈ entries, ¬ IsOption entry.1 ∧ IsTooLong entry.1 := by
  rw [unknown_eq]
  simp [isLong_iff]

theorem pairwise_unknownKeys (entries : List (Scalar × Value)) :
    (unknownKeys entries).Pairwise (· ≤ ·) := by
  have htrans : ∀ a b c : String, decide (a ≤ b) = true → decide (b ≤ c) = true →
      decide (a ≤ c) = true := by
    intro a b c hab hbc
    exact decide_eq_true (String.le_trans (of_decide_eq_true hab) (of_decide_eq_true hbc))
  have htotal : ∀ a b : String, (decide (a ≤ b) || decide (b ≤ a)) = true := by
    intro a b
    simpa using String.le_total a b
  have hsorted := List.pairwise_mergeSort htrans htotal ((unknown entries).map (·.keyText))
  simpa [unknownKeys] using hsorted

theorem unknown_perm (h : entries'.Perm entries) : (unknown entries').Perm (unknown entries) :=
  (h.map Prod.fst).filter _

theorem unknownKeys_perm (h : entries'.Perm entries) :
    unknownKeys entries' = unknownKeys entries := by
  refine List.Perm.eq_of_pairwise (fun _ _ _ _ => String.le_antisymm)
    (pairwise_unknownKeys entries') (pairwise_unknownKeys entries) ?_
  exact (List.mergeSort_perm _ _).trans
    (((unknown_perm h).map (·.keyText)).trans (List.mergeSort_perm _ _).symm)

theorem shownAs_unknownKeys (entries : List (Scalar × Value)) :
    ShownAs entries (unknownKeys entries) := by
  refine ⟨pairwise_unknownKeys entries, ?_⟩
  rw [← unknown_eq]
  exact List.mergeSort_perm _ _

/-- There is one list that shows them. -/
theorem ShownAs.unique {texts texts' : List String} (h : ShownAs entries texts)
    (h' : ShownAs entries texts') : texts = texts' :=
  (h.2.trans h'.2.symm).eq_of_pairwise (fun _ _ _ _ => String.le_antisymm) h.1 h'.1

/-! ## All options -/

theorem ofEntries_of_long (h : (unknown entries).any (·.isLong) = true) :
    ofEntries label entries = .error .longKey := by
  rw [ofEntries, if_pos h]
  rfl

theorem ofEntries_of_unknown (hshort : (unknown entries).any (·.isLong) = false)
    (h : unknown entries ≠ []) :
    ofEntries label entries = .error (.unknownKeys label (unknownKeys entries)) := by
  rw [ofEntries, hshort, if_pos h]
  rfl

theorem ofEntries_of_known (h : ∀ entry ∈ entries, IsOption entry.1) :
    ofEntries label entries = (do
      return ⟨← truthValue label entries bytesKey, ← truthValue label entries textKey,
        ← truthValue label entries enumsKey⟩) := by
  have hnone : unknown entries = [] := unknown_eq_nil_iff.mpr h
  simp only [ofEntries, hnone]
  rfl

/-- Each option is read after those before it. -/
theorem options_or_first_wrong (label : String) (hd : Value.KeysDiffer entries)
    (h : ∀ entry ∈ entries, IsOption entry.1) :
    (∃ options, ofEntries label entries = .ok options ∧
      Sets entries bytesKey options.sharedBytes ∧ Sets entries textKey options.sharedText ∧
      Sets entries enumsKey options.openEnums) ∨
    ∃ name, ofEntries label entries = .error (.notATruthValue label name) ∧
      IsFirstWrong entries name := by
  rw [ofEntries_of_known h]
  rcases truthValue_cases label entries bytesKey with ⟨bytes, hbytes, sbytes⟩ | ⟨hbytes, wbytes⟩
  · rcases truthValue_cases label entries textKey with ⟨text, htext, stext⟩ | ⟨htext, wtext⟩
    · rcases truthValue_cases label entries enumsKey with ⟨enums, henums, senums⟩ | ⟨henums, wenums⟩
      · rw [hbytes, htext, henums]
        exact .inl ⟨⟨bytes, text, enums⟩, rfl, sbytes, stext, senums⟩
      · rw [hbytes, htext, henums]
        refine .inr ⟨enumsKey, rfl, [bytesKey, textKey], [], rfl, wenums, ?_⟩
        simp [sbytes.not_isWrong hd, stext.not_isWrong hd]
    · rw [hbytes, htext]
      refine .inr ⟨textKey, rfl, [bytesKey], [enumsKey], rfl, wtext, ?_⟩
      simp [sbytes.not_isWrong hd]
  · rw [hbytes]
    exact .inr ⟨bytesKey, rfl, [], [textKey, enumsKey], rfl, wbytes, by simp⟩

/-- The order of the entries makes no difference. -/
theorem ofEntries_perm (h : entries'.Perm entries) (hd : Value.KeysDiffer entries) :
    ofEntries label entries' = ofEntries label entries := by
  have hunknown := unknown_perm h
  have hnil : unknown entries' ≠ [] ↔ unknown entries ≠ [] := by
    rw [ne_eq, ne_eq, ← List.length_eq_zero_iff, ← List.length_eq_zero_iff, hunknown.length_eq]
  simp only [ofEntries, hunknown.any_eq, hnil, unknownKeys_perm h, truthValue_perm h hd]

/-! ## The outcome -/

theorem known_of_ok {options : Options} (h : ofEntries label entries = .ok options) :
    ∀ entry ∈ entries, IsOption entry.1 := by
  rw [← unknown_eq_nil_iff]
  by_contra hunknown
  cases hlong : (unknown entries).any (·.isLong) with
  | true =>
    rw [ofEntries_of_long hlong] at h
    cases h
  | false =>
    rw [ofEntries_of_unknown hlong hunknown] at h
    cases h

/-- Where no option is wrong, no entry of an option is. -/
theorem isTruthValue_of_not_isWrong (h : ∀ name ∈ keys, ¬ IsWrong entries name)
    {entry : Scalar × Value} (hentry : entry ∈ entries) (hoption : IsOption entry.1) :
    IsTruthValue entry.2 := by
  obtain ⟨name, hname, hkey⟩ := hoption
  by_contra hwrong
  exact h name hname ⟨entry.2, hkey ▸ hentry, hwrong⟩

theorem IsFirstWrong.exists_entry (h : IsFirstWrong entries name) :
    ∃ entry ∈ entries, ¬ IsTruthValue entry.2 := by
  obtain ⟨-, -, -, ⟨v, hv, hwrong⟩, -⟩ := h
  exact ⟨_, hv, hwrong⟩

theorem exists_options_iff (hd : Value.KeysDiffer entries) :
    (∃ options, ofEntries label entries = .ok options) ↔
      ∀ entry ∈ entries, IsOption entry.1 ∧ IsTruthValue entry.2 := by
  constructor
  · rintro ⟨options, hok⟩
    have hknown := known_of_ok hok
    rcases options_or_first_wrong label hd hknown with
      ⟨_, -, hbytes, htext, henums⟩ | ⟨_, herror, -⟩
    · have hright : ∀ name ∈ keys, ¬ IsWrong entries name := by
        simp [keys, hbytes.not_isWrong hd, htext.not_isWrong hd, henums.not_isWrong hd]
      intro entry he
      exact ⟨hknown entry he, isTruthValue_of_not_isWrong hright he (hknown entry he)⟩
    · rw [herror] at hok
      cases hok
  · intro hall
    rcases options_or_first_wrong label hd fun entry he => (hall entry he).1 with
      ⟨options, hok, -⟩ | ⟨_, -, hfirst⟩
    · exact ⟨options, hok⟩
    · obtain ⟨entry, he, hwrong⟩ := hfirst.exists_entry
      exact absurd (hall entry he).2 hwrong

theorem sets_of_ok (hd : Value.KeysDiffer entries) {options : Options}
    (h : ofEntries label entries = .ok options) :
    Sets entries bytesKey options.sharedBytes ∧ Sets entries textKey options.sharedText ∧
      Sets entries enumsKey options.openEnums := by
  rcases options_or_first_wrong label hd (known_of_ok h) with
    ⟨options', hok, hsets⟩ | ⟨_, herror, -⟩
  · rw [hok, Except.ok.injEq] at h
    rwa [h] at hsets
  · rw [herror] at h
    cases h

/-- What comes of entries, as they say it themselves. -/
structure IsDecided (label : String) (entries : List (Scalar × Value))
    (outcome : Except OptionsError Options) : Prop where
  /-- There are options exactly if every key is an option and every value a truth value. -/
  accepted : (∃ options, outcome = .ok options) ↔
    ∀ entry ∈ entries, IsOption entry.1 ∧ IsTruthValue entry.2
  /-- Each option is the value of its own key, and false if that is absent. -/
  values : ∀ options, outcome = .ok options →
    Sets entries bytesKey options.sharedBytes ∧ Sets entries textKey options.sharedText ∧
      Sets entries enumsKey options.openEnums
  /-- All unknown keys are listed by their texts, whatever the values are, if they can all be
      shown. -/
  unknown : (∃ entry ∈ entries, ¬ IsOption entry.1) →
    (∀ entry ∈ entries, ¬ IsOption entry.1 → ¬ IsTooLong entry.1) →
    ∃ texts, ShownAs entries texts ∧ outcome = .error (.unknownKeys label texts)
  /-- One that is too long to be shown is an error of its own. -/
  unshown : (∃ entry ∈ entries, ¬ IsOption entry.1 ∧ IsTooLong entry.1) →
    outcome = .error .longKey
  /-- Of options that are no truth values the first one is named. -/
  wrong : (∀ entry ∈ entries, IsOption entry.1) → (∃ entry ∈ entries, ¬ IsTruthValue entry.2) →
    ∃ name, IsFirstWrong entries name ∧ outcome = .error (.notATruthValue label name)

theorem isDecided_ofEntries (label : String) (hd : Value.KeysDiffer entries) :
    IsDecided label entries (ofEntries label entries) where
  accepted := exists_options_iff hd
  values _ hok := sets_of_ok hd hok
  unknown hunknown hshown := by
    have hsome : unknown entries ≠ [] := by
      rw [ne_eq, unknown_eq_nil_iff]
      intro hknown
      obtain ⟨entry, he, hkey⟩ := hunknown
      exact hkey (hknown entry he)
    have hshort : (unknown entries).any (·.isLong) = false := by
      rw [Bool.eq_false_iff, ne_eq, any_isLong_iff]
      rintro ⟨entry, he, hkey, hlong⟩
      exact hshown entry he hkey hlong
    exact ⟨unknownKeys entries, shownAs_unknownKeys entries, ofEntries_of_unknown hshort hsome⟩
  unshown hlong := ofEntries_of_long (any_isLong_iff.mpr hlong)
  wrong hknown hwrong := by
    rcases options_or_first_wrong label hd hknown with
      ⟨options, hok, -⟩ | ⟨name, herror, hfirst⟩
    · obtain ⟨entry, he, hvalue⟩ := hwrong
      exact absurd ((exists_options_iff hd).mp ⟨options, hok⟩ entry he).2 hvalue
    · exact ⟨name, hfirst, herror⟩

/-! ## Values and texts -/

variable {d : Value}

theorem ofValue_of_holds (h : Holds d entries) : ofValue label d = ofEntries label entries := by
  cases h <;> rfl

theorem ofValue_of_not_holds (h : ∀ entries, ¬ Holds d entries) :
    ofValue label d = .error (.notAMapping label) := by
  cases d with
  | scalar s =>
    cases s with
    | null => exact absurd .nothing (h [])
    | _ => rfl
  | mapping entries => exact absurd (.mapping entries) (h entries)
  | _ => rfl

theorem keysDiffer_of_holds (hd : d.HasKeysOnce) (h : Holds d entries) :
    Value.KeysDiffer entries := by
  cases h with
  | nothing => exact List.nodup_nil
  | mapping => exact hd

theorem result_ofText {text : String} (h : Value.ofText text = .ok d) :
    (ofText label text).result = ofValue label d := by
  have hread : ((Value.ofText text).mapError (errorOf label)) = .ok d := by rw [h]; rfl
  rw [ofText, Traced.result_bind, Traced.result_ofExcept, hread]
  show ((liftM (ofValue label d) : Traced OptionsError Options) >>= _).result = _
  rw [Traced.result_bind, Traced.result_liftM]
  cases ofValue label d <;> rfl

/-- The outcome of a text is that of the value it has, which has each key once. Neither null nor
    a mapping is refused; and for null and mappings the outcome is decided by the entries,
    whatever their order. -/
theorem entries_decide_the_options (label : String) (d : Value) :
    (∀ text, Value.ofText text = .ok d →
      d.HasKeysOnce ∧ (ofText label text).result = ofValue label d) ∧
    ((∀ entries, ¬ Holds d entries) → ofValue label d = .error (.notAMapping label)) ∧
    (d.HasKeysOnce → ∀ entries, Holds d entries →
      IsDecided label entries (ofValue label d) ∧
      ∀ entries', entries'.Perm entries → ofValue label (.mapping entries') = ofValue label d) := by
  refine ⟨fun text h => ⟨Value.hasKeysOnce_of_ofText h, result_ofText h⟩, ofValue_of_not_holds, ?_⟩
  intro hd entries hentries
  have hdiffer := keysDiffer_of_holds hd hentries
  rw [ofValue_of_holds hentries]
  exact ⟨isDecided_ofEntries label hdiffer, fun entries' hperm => ofEntries_perm hperm hdiffer⟩

/-- The least integer that is too long to be shown, as the only key: it is no option, and it is
    not listed as one that is unknown. -/
theorem a_key_too_long_to_show_is_not_listed :
    let entries : List (Scalar × Value) :=
      [(.int (Nat.pow 10 longestNumber), .scalar (.bool true))]
    (Value.mapping entries).HasKeysOnce ∧ (∃ entry ∈ entries, ¬ IsOption entry.1) ∧
      ofValue "<string>" (.mapping entries) = .error .longKey ∧
      ∀ texts, ofValue "<string>" (.mapping entries) ≠ .error (.unknownKeys "<string>" texts) := by
  intro entries
  have honce : Value.KeysDiffer entries := List.nodup_singleton _
  have hunknown : ∃ entry ∈ entries, ¬ IsOption entry.1 ∧ IsTooLong entry.1 := by
    refine ⟨_, List.mem_cons_self, ?_, _, rfl, ?_⟩
    · rintro ⟨name, -, hname⟩
      cases hname
    · exact Nat.le_of_eq (Int.natAbs_natCast _).symm
  have hlong : ofValue "<string>" (.mapping entries) = .error .longKey :=
    (isDecided_ofEntries "<string>" honce).unshown hunknown
  refine ⟨honce, ?_, hlong, fun texts => ?_⟩
  · obtain ⟨entry, hentry, hkey, -⟩ := hunknown
    exact ⟨entry, hentry, hkey⟩
  · rw [hlong]
    exact nofun

/-- Unknown keys beside an option that has a wrong value: one in a text, and some of two sorts
    among entries in either order. -/
theorem entries_decide_the_options_beside_unknown_keys :
    let text := "zeta:\nenum-or-unknown: maybe\n"
    let entries : List (Scalar × Value) :=
      [(.text "zeta", .scalar .null), (.int 9, .scalar (.bool true)),
        (.text enumsKey, .scalar (.text "maybe")), (.int 10, .list [])]
    (∃ d, Value.ofText text = .ok d ∧ d.HasKeysOnce ∧
      ofValue "<string>" d = .error (.unknownKeys "<string>" ["zeta"])) ∧
    (Value.mapping entries).HasKeysOnce ∧
      ofValue "<string>" (.mapping entries) =
        .error (.unknownKeys "<string>" ["10", "9", "zeta"]) ∧
      ofValue "<string>" (.mapping entries.reverse) = ofValue "<string>" (.mapping entries) := by
  intro text entries
  obtain ⟨d, hvalue⟩ : ∃ d, Value.ofText text = .ok d := by
    have hread : (Value.ofText text).toBool = true := by decide +kernel
    cases hd : Value.ofText text with
    | ok d => exact ⟨d, rfl⟩
    | error fault =>
      rw [hd] at hread
      cases hread
  obtain ⟨honce, hresult⟩ := (entries_decide_the_options "<string>" d).1 text hvalue
  have hrun : (ofText "<string>" text).result = .error (.unknownKeys "<string>" ["zeta"]) := by
    decide +kernel
  have hkeys : (Value.mapping entries).HasKeysOnce := by
    show (entries.map (·.1)).Nodup
    decide
  have hshown : ShownAs entries ["10", "9", "zeta"] := by
    unfold ShownAs
    decide +kernel
  obtain ⟨hdecided, horder⟩ :=
    (entries_decide_the_options "<string>" (.mapping entries)).2.2 hkeys entries (.mapping entries)
  have hunknown : ∃ entry ∈ entries, ¬ IsOption entry.1 :=
    ⟨(.text "zeta", .scalar .null), List.mem_cons_self, by decide⟩
  have hshort : ∀ entry ∈ entries, ¬ entry.1.isLong = true := by decide +kernel
  have hall : ∀ entry ∈ entries, ¬ IsOption entry.1 → ¬ IsTooLong entry.1 :=
    fun entry he _ => mt isLong_iff.mpr (hshort entry he)
  obtain ⟨texts, htexts, herror⟩ := hdecided.unknown hunknown hall
  rw [htexts.unique hshown] at herror
  exact ⟨⟨d, hvalue, honce, hresult.symm.trans hrun⟩, hkeys, herror, horder _ entries.reverse_perm⟩

end RustSchema.Options
