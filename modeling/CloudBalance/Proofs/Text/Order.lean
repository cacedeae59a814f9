import CloudBalance.Text.Column
import CloudBalance.Text.Utf8

/-!
# The order of texts

Texts are compared by their code points. Main statements: this is the order of their bytes in UTF-8,
`sortBy` brings a list into this order and does not exchange items of one text, and `sortedSet` is the only list of the
same texts, once each, that is in this order.
-/

namespace CloudBalance.Text

/-! ## Lists without repetitions -/

section EraseReps

variable {α : Type} [BEq α]

theorem eraseReps_loop (a : α) (items before : List α) :
    List.eraseRepsBy.loop (· == ·) a items before = before.reverse ++ (a :: items).eraseReps := by
  induction items generalizing a before with
  | nil => simp [List.eraseReps, List.eraseRepsBy, List.eraseRepsBy.loop]
  | cons b rest ih =>
    simp only [List.eraseReps, List.eraseRepsBy, List.eraseRepsBy.loop]
    split
    · exact ih a before
    · rw [ih b (a :: before), ih b [a]]
      simp

theorem eraseReps_cons_cons (a b : α) (rest : List α) :
    (a :: b :: rest).eraseReps =
      if a == b then (a :: rest).eraseReps else a :: (b :: rest).eraseReps := by
  conv => lhs; rw [List.eraseReps, List.eraseRepsBy, List.eraseRepsBy.loop]
  cases a == b with
  | true => simp [eraseReps_loop]
  | false => simp [eraseReps_loop]

variable [LawfulBEq α]

theorem mem_eraseReps {x : α} {items : List α} : x ∈ items.eraseReps ↔ x ∈ items := by
  cases items with
  | nil => simp [List.eraseReps, List.eraseRepsBy]
  | cons a rest =>
    induction rest generalizing a with
    | nil => simp [List.eraseReps, List.eraseRepsBy, List.eraseRepsBy.loop]
    | cons b rest ih =>
      rw [eraseReps_cons_cons]
      cases same : a == b with
      | true => simp [ih, eq_of_beq same]
      | false => simp [ih]

theorem pairwise_eraseReps {r : α → α → Prop} (antisymm : ∀ {a b}, r a b → r b a → a = b)
    {items : List α} (sorted : items.Pairwise r) :
    items.eraseReps.Pairwise fun a b => r a b ∧ a ≠ b := by
  cases items with
  | nil => simp [List.eraseReps, List.eraseRepsBy]
  | cons a rest =>
    induction rest generalizing a with
    | nil => simp [List.eraseReps, List.eraseRepsBy, List.eraseRepsBy.loop]
    | cons b rest ih =>
      obtain ⟨above, tail⟩ := List.pairwise_cons.mp sorted
      rw [eraseReps_cons_cons]
      by_cases same : a = b
      · subst same
        rw [if_pos (beq_self_eq_true a)]
        exact ih a tail
      · rw [if_neg (by simpa using same), List.pairwise_cons]
        refine ⟨fun x member => ?_, ih b tail⟩
        have listed := mem_eraseReps.mp member
        refine ⟨above x listed, ?_⟩
        rintro rfl
        -- an item that came again would stand below and above the one between
        rcases List.mem_cons.mp listed with equal | deeper
        · exact same equal
        · exact same (antisymm (above b List.mem_cons_self) ((List.pairwise_cons.mp tail).1 a deeper))

end EraseReps

/-! ## Sorting -/

theorem le_total (a b : String) : (le a b || le b a) = true := by
  simp only [le, Bool.or_eq_true, Bool.not_eq_true', decide_eq_false_iff_not, String.not_lt]
  exact String.le_total a b

theorem le_trans {a b c : String} (ab : le a b = true) (bc : le b c = true) : le a c = true := by
  simp only [le, Bool.not_eq_true', decide_eq_false_iff_not, String.not_lt] at *
  exact String.le_trans ab bc

theorem le_antisymm {a b : String} (ab : le a b = true) (ba : le b a = true) : a = b := by
  simp only [le, Bool.not_eq_true', decide_eq_false_iff_not, String.not_lt] at *
  exact String.le_antisymm ab ba

section SortBy

variable {α : Type} {key : α → String} {items : List α}

theorem sortBy_perm : (sortBy key items).Perm items :=
  List.mergeSort_perm _ _

theorem mem_sortBy {a : α} : a ∈ sortBy key items ↔ a ∈ items :=
  List.mem_mergeSort

theorem pairwise_sortBy : (sortBy key items).Pairwise fun a b => le (key a) (key b) = true :=
  @List.pairwise_mergeSort _ (fun a b => le (key a) (key b)) (fun _ _ _ => le_trans)
    (fun _ _ => le_total _ _) items

/-- Items of one text keep their order. -/
theorem filter_sortBy (text : String) :
    (sortBy key items).filter (key · == text) = items.filter (key · == text) := by
  have alike : (items.filter (key · == text)).Pairwise fun a b => le (key a) (key b) = true := by
    refine List.pairwise_of_forall_mem_list fun a first b second => ?_
    rw [beq_iff_eq.mp (List.mem_filter.mp first).2, beq_iff_eq.mp (List.mem_filter.mp second).2]
    simp [le]
  have among : (items.filter (key · == text)).Sublist (sortBy key items) :=
    @List.sublist_mergeSort _ (fun a b => le (key a) (key b)) items (fun _ _ _ => le_trans)
      (fun _ _ => le_total _ _) _ alike List.filter_sublist
  have within := among.filter (key · == text)
  rw [List.filter_filter] at within
  simp only [Bool.and_self] at within
  exact (within.eq_of_length (sortBy_perm.filter _).length_eq.symm).symm

/-- A list that is sorted by one text of each item and then by another one is in the order of the latter, and items
of which that is the same are in the order of the former. -/
theorem pairwise_sortBy_sortBy {first : α → String} :
    (sortBy first (sortBy key items)).Pairwise fun a b =>
      first a < first b ∨ first a = first b ∧ le (key a) (key b) = true := by
  refine List.pairwise_iff_forall_sublist.mpr fun {a b} sub => ?_
  have ordered := List.pairwise_iff_forall_sublist.mp pairwise_sortBy sub
  by_cases same : first a = first b
  · -- the two are not exchanged by the second sorting
    refine .inr ⟨same, ?_⟩
    have kept := sub.filter (first · == first b)
    rw [filter_sortBy, List.filter_eq_self.mpr (by simp [same])] at kept
    exact List.pairwise_iff_forall_sublist.mp pairwise_sortBy (kept.trans List.filter_sublist)
  · refine .inl (Decidable.by_contra fun above => same (le_antisymm ordered ?_))
    simpa [le] using above

end SortBy

theorem mem_sortedSet {x : String} {items : List String} : x ∈ sortedSet items ↔ x ∈ items :=
  mem_eraseReps.trans mem_sortBy

theorem nodup_sortedSet (items : List String) : (sortedSet items).Nodup :=
  (pairwise_eraseReps le_antisymm pairwise_sortBy).imp And.right

/-! ## Bytes -/

/-- The bytes of a text. -/
def bytes (s : String) : List UInt8 :=
  (encode s).data.toList

theorem bytes_eq_flatMap (s : String) : bytes s = s.toList.flatMap String.utf8EncodeChar := by
  have whole : s.toList.utf8Encode = encode s := String.utf8Encode_toList
  rw [bytes, ← whole, List.utf8Encode, List.data_toByteArray]

theorem fourBytes_lt {m n : Nat} (less : m < n) (bound : n < 0x110000) :
    m / 262144 % 8 + 240 < n / 262144 % 8 + 240 ∨
      m / 262144 % 8 + 240 = n / 262144 % 8 + 240 ∧
        (m / 4096 % 64 + 128 < n / 4096 % 64 + 128 ∨
          m / 4096 % 64 + 128 = n / 4096 % 64 + 128 ∧
            (m / 64 % 64 + 128 < n / 64 % 64 + 128 ∨
              m / 64 % 64 + 128 = n / 64 % 64 + 128 ∧ m % 64 + 128 < n % 64 + 128)) := by
  -- the first byte in which they differ decides
  by_cases first : m / 262144 = n / 262144
  · by_cases second : m / 4096 = n / 4096
    · by_cases third : m / 64 = n / 64
      · omega
      · omega
    · omega
  · exact .inl (by omega)

/-- The first byte in which two characters differ decides like their code points. -/
theorem utf8EncodeChar_lt {c d : Char} (less : c < d) (after after' : List UInt8) :
    String.utf8EncodeChar c ++ after < String.utf8EncodeChar d ++ after' := by
  have bound : d.val.toNat < 0x110000 := by
    have := d.valid
    simp only [UInt32.isValidChar, Nat.isValidChar] at this
    omega
  have less : c.val.toNat < d.val.toNat := less
  have whole : ∀ n, (n % 64 + 128) % 256 = n % 64 + 128 ∧ (n % 8 + 240) % 256 = n % 8 + 240 := by
    omega
  -- a longer code has a greater first byte; codes of one length are compared byte by byte
  fun_cases String.utf8EncodeChar c <;> fun_cases String.utf8EncodeChar d <;>
    simp only [List.cons_append, List.nil_append, List.cons_lt_cons_iff, UInt8.lt_iff_toNat_lt,
      ← UInt8.toNat_inj, UInt8.toNat_ofNat', Nat.reducePow]
  case case4.case4 =>
    simp only [(whole _).1, (whole _).2]
    rcases fourBytes_lt less bound with first | ⟨first, second | ⟨second, third | ⟨third, fourth⟩⟩⟩
    · exact .inl first
    · exact .inr ⟨first, .inl second⟩
    · exact .inr ⟨first, .inr ⟨second, .inl third⟩⟩
    · exact .inr ⟨first, .inr ⟨second, .inr ⟨third, .inl fourth⟩⟩⟩
  all_goals omega

theorem flatMap_utf8EncodeChar_lt {cs ds : List Char} (less : cs < ds) :
    cs.flatMap String.utf8EncodeChar < ds.flatMap String.utf8EncodeChar := by
  induction cs generalizing ds with
  | nil =>
    cases ds with
    | nil => exact absurd less (List.lt_irrefl _)
    | cons d ds =>
      rw [List.flatMap_cons, List.flatMap_nil]
      fun_cases String.utf8EncodeChar d <;> exact List.nil_lt_cons _ _
  | cons c cs ih =>
    cases ds with
    | nil => exact absurd less (List.not_lt_nil _)
    | cons d ds =>
      rw [List.flatMap_cons, List.flatMap_cons]
      rcases List.cons_lt_cons_iff.mp less with earlier | ⟨rfl, later⟩
      · exact utf8EncodeChar_lt earlier _ _
      · exact List.append_left_lt (ih later)

/-- The order of texts is the order of their bytes. -/
theorem le_iff_bytes {a b : String} : le a b = true ↔ bytes a ≤ bytes b := by
  have forward : ∀ {a b : String}, a < b → bytes a < bytes b := by
    intro a b less
    rw [bytes_eq_flatMap, bytes_eq_flatMap]
    exact flatMap_utf8EncodeChar_lt less
  simp only [le, Bool.not_eq_true', decide_eq_false_iff_not]
  constructor
  · intro ordered less
    by_cases earlier : a < b
    · exact List.lt_asymm less (forward earlier)
    · have same : a = b := String.le_antisymm (String.not_lt.mp ordered) (String.not_lt.mp earlier)
      subst same
      exact List.lt_irrefl _ less
  · intro ordered less
    exact ordered (forward less)

/-- The distinct texts stand in the order of their bytes. -/
theorem pairwise_sortedSet (items : List String) : (sortedSet items).Pairwise fun a b => bytes a < bytes b := by
  refine (pairwise_eraseReps le_antisymm pairwise_sortBy).imp ?_
  rintro a b ⟨ordered, differ⟩
  rw [← List.not_le, ← le_iff_bytes]
  exact fun other => differ (le_antisymm ordered other)

/-- There is only one such list of these texts. -/
theorem sortedSet_eq {items order : List String} (ascending : order.Pairwise fun a b => bytes a < bytes b)
    (same : ∀ x, x ∈ order ↔ x ∈ items) : sortedSet items = order := by
  have once : order.Nodup := by
    refine ascending.imp ?_
    rintro a b less rfl
    exact List.lt_irrefl _ less
  have perm : (sortedSet items).Perm order :=
    (List.perm_ext_iff_of_nodup (nodup_sortedSet items) once).mpr fun x => mem_sortedSet.trans (same x).symm
  refine perm.eq_of_pairwise (fun a b _ _ less greater => ?_) (pairwise_sortedSet items) ascending
  exact absurd greater (List.lt_asymm less)

end CloudBalance.Text
