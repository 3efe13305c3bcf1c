import MarkdownToAdf.Cli.Extras

set_option autoImplicit false

/-!
# Extra arguments taken out

An argument list falls apart into kept arguments and parameters in one way only. What is kept has
no parameters left in it, and of several values of a parameter the last one counts.
-/
namespace MarkdownToAdf.Cli
open Format

inductive IsKey : String → String → Prop
  | extra (key : String) : IsKey ("--extra-" ++ key) key
  | extras (key : String) : IsKey ("--extras-" ++ key) key

/-- The ways of taking an argument list apart from left to right. The argument behind a key is its
value if there is one that does not look like an option, and only then. -/
inductive Splits : List String → List Segment → Prop
  | nil : Splits [] []
  | kept {arg : String} {args : List String} {segs : List Segment} (hkey : ∀ key, ¬ IsKey arg key)
    (h : Splits args segs) : Splits (arg :: args) (.kept arg :: segs)
  | bare {arg key : String} {args : List String} {segs : List Segment} (hkey : IsKey arg key)
    (hnext : ∀ value ∈ args.head?, isDashed value = true) (h : Splits args segs) :
    Splits (arg :: args) (.bare key :: segs)
  | pair {arg key value : String} {args : List String} {segs : List Segment}
    (hkey : IsKey arg key) (hnext : isDashed value = false) (h : Splits args segs) :
    Splits (arg :: value :: args) (.pair key value :: segs)

/-- A key without a value stands for a true parameter. -/
inductive Segment.Gives : Segment → String → String → Prop
  | bare (key : String) : Gives (.bare key) key "true"
  | pair (key value : String) : Gives (.pair key value) key value

/-- The last of the segments that give a parameter gives it this value. -/
def LastGiven (segs : List Segment) (key value : String) : Prop :=
  ∃ before s after, segs = before ++ s :: after ∧ s.Gives key value ∧
    ∀ t ∈ after, ∀ other, ¬ t.Gives key other

/-- The first list ends in a key that the second one begins with a value for. -/
def Straddles (xs ys : List String) : Prop :=
  (∃ arg key, xs.getLast? = some arg ∧ IsKey arg key) ∧
    ∃ value, ys.head? = some value ∧ isDashed value = false

/-- What becomes of an argument list that has been taken apart. -/
structure Separated (args : List String) (segs : List Segment) : Prop where
  splits : Splits args segs
  only : ∀ other, Splits args other → other = segs
  kept : keptArguments args = segs.filterMap Segment.kept?
  order : (keptArguments args).Sublist args
  keyless : ∀ arg ∈ keptArguments args, ∀ key, ¬ IsKey arg key
  given_iff : ∀ key value,
    (extraParameters args).lookup key = some value ↔ LastGiven segs key value
  distinct : ((extraParameters args).map Prod.fst).Nodup
  settled : keptArguments (keptArguments args) = keptArguments args ∧
    extraParameters (keptArguments args) = []

theorem stripFront?_eq_some_iff (front s r : List Char) :
    stripFront? front s = some r ↔ s = front ++ r := by
  fun_induction stripFront? front s with
  | case1 s => simp [eq_comm]
  | case2 p ps s ih => simp [ih]
  | case3 p ps c s h => simp [Ne.symm h]
  | case4 p ps => simp

theorem isKey_iff (arg key : String) :
    IsKey arg key ↔ arg = "--extra-" ++ key ∨ arg = "--extras-" ++ key := by
  constructor
  · rintro (_ | _)
    · exact .inl rfl
    · exact .inr rfl
  · rintro (rfl | rfl)
    · exact .extra key
    · exact .extras key

theorem stripFront?_toList (front arg key : String) :
    stripFront? front.toList arg.toList = some key.toList ↔ arg = front ++ key := by
  rw [stripFront?_eq_some_iff, ← String.toList_append, String.toList_inj]

theorem extraKey?_eq_some_iff (arg key : String) : extraKey? arg = some key ↔ IsKey arg key := by
  have hkey : extraKey? arg = some key ↔
      (stripFront? "--extra-".toList arg.toList).or (stripFront? "--extras-".toList arg.toList) =
        some key.toList := by
    rw [extraKey?, Option.map_eq_some_iff]
    constructor
    · rintro ⟨r, hr, rfl⟩
      rw [hr, String.toList_ofList]
    · intro h
      exact ⟨_, h, String.ofList_toList⟩
  rw [hkey, Option.or_eq_some_iff, stripFront?_toList, stripFront?_toList, isKey_iff]
  refine or_congr_right (and_iff_right_of_imp ?_)
  -- the two fronts differ where the shorter one ends
  rintro rfl
  rw [String.toList_append]
  rfl

theorem extraKey?_eq_none_iff (arg : String) :
    extraKey? arg = none ↔ ∀ key, ¬ IsKey arg key := by
  simp only [← extraKey?_eq_some_iff, Option.eq_none_iff_forall_ne_some, ne_eq]

theorem IsKey.isDashed {arg key : String} (h : IsKey arg key) : isDashed arg = true := by
  cases h <;> simp [Cli.isDashed]

theorem splits_iff (args : List String) (segs : List Segment) :
    Splits args segs ↔ segments args = segs := by
  constructor
  · intro h
    induction h with
    | nil => rfl
    | kept hkey _ ih => rw [segments, (extraKey?_eq_none_iff _).2 hkey, ih]
    | @bare arg key args segs hkey hnext _ ih =>
      rw [segments, (extraKey?_eq_some_iff _ _).2 hkey]
      cases args with
      | nil => rw [← ih]; rfl
      | cons v rest => rw [← ih]; simp [hnext v rfl]
    | pair hkey hnext _ ih =>
      rw [segments, (extraKey?_eq_some_iff _ _).2 hkey]
      simp [hnext, ih]
  · rintro rfl
    fun_induction segments args with
    | case1 => exact .nil
    | case2 a r hkey ih => exact .kept ((extraKey?_eq_none_iff a).1 hkey) ih
    | case3 a key hkey => exact .bare ((extraKey?_eq_some_iff a key).1 hkey) nofun .nil
    | case4 a key hkey v rest hv ih =>
      refine .bare ((extraKey?_eq_some_iff a key).1 hkey) ?_ ih
      rintro _ ⟨⟩
      exact hv
    | case5 a key hkey v rest hv ih =>
      exact .pair ((extraKey?_eq_some_iff a key).1 hkey) (Bool.eq_false_iff.2 hv) ih

theorem splits_segments (args : List String) : Splits args (segments args) :=
  (splits_iff args _).2 rfl

theorem Splits.kept_sublist {args : List String} {segs : List Segment} (h : Splits args segs) :
    (segs.filterMap Segment.kept?).Sublist args := by
  induction h with
  | nil => exact .slnil
  | kept _ _ ih => exact ih.cons_cons _
  | bare _ _ _ ih => exact ih.cons _
  | pair _ _ _ ih => exact (ih.cons _).cons _

theorem Splits.keyless {args : List String} {segs : List Segment} (h : Splits args segs) :
    ∀ arg ∈ segs.filterMap Segment.kept?, ∀ key, ¬ IsKey arg key := by
  induction h with
  | nil => exact List.forall_mem_nil _
  | kept hkey _ ih => exact List.forall_mem_cons.2 ⟨hkey, ih⟩
  | bare _ _ _ ih => exact ih
  | pair _ _ _ ih => exact ih

theorem splits_of_keyless {args : List String} (h : ∀ arg ∈ args, ∀ key, ¬ IsKey arg key) :
    Splits args (args.map .kept) := by
  induction args with
  | nil => exact .nil
  | cons arg r ih =>
    obtain ⟨harg, hr⟩ := List.forall_mem_cons.1 h
    exact .kept harg (ih hr)

theorem Straddles.cons {xs ys : List String} (h : Straddles xs ys) (arg : String) :
    Straddles (arg :: xs) ys := by
  obtain ⟨⟨last, key, hlast, hkey⟩, hvalue⟩ := h
  refine ⟨⟨last, key, ?_, hkey⟩, hvalue⟩
  rw [List.getLast?_cons, hlast, Option.getD_some]

theorem Splits.append {xs ys : List String} {segs rest : List Segment} (hx : Splits xs segs)
    (hy : Splits ys rest) (h : ¬ Straddles xs ys) : Splits (xs ++ ys) (segs ++ rest) := by
  induction hx with
  | nil => exact hy
  | kept hkey _ ih => exact .kept hkey (ih fun hs => h (hs.cons _))
  | @bare arg key args segs hkey hnext _ ih =>
    refine .bare hkey ?_ (ih fun hs => h (hs.cons _))
    cases args with
    | nil =>
      intro value hvalue
      rw [← Bool.not_eq_false]
      exact fun hplain => h ⟨⟨arg, key, rfl, hkey⟩, value, hvalue, hplain⟩
    | cons v r => exact hnext
  | pair hkey hnext _ ih => exact .pair hkey hnext (ih fun hs => h ((hs.cons _).cons _))

theorem segments_append {xs ys : List String} (h : ¬ Straddles xs ys) :
    segments (xs ++ ys) = segments xs ++ segments ys :=
  (splits_iff _ _).1 ((splits_segments xs).append (splits_segments ys) h)

theorem gives_iff (s : Segment) (key value : String) :
    s.Gives key value ↔ s.parameter? = some (key, value) := by
  constructor
  · rintro (_ | _) <;> rfl
  · intro h
    cases s with
    | kept arg => cases h
    | bare =>
      cases h
      exact .bare key
    | pair =>
      cases h
      exact .pair key value

theorem lastGiven_iff (segs : List Segment) (key value : String) :
    LastGiven segs key value ↔
      (segs.filterMap Segment.parameter?).reverse.lookup key = some value := by
  rw [List.lookup_eq_some_iff]
  constructor
  · rintro ⟨before, s, after, rfl, hs, hafter⟩
    refine ⟨(after.filterMap Segment.parameter?).reverse,
      (before.filterMap Segment.parameter?).reverse, ?_, ?_⟩
    · rw [List.filterMap_append, List.filterMap_cons_some ((gives_iff _ _ _).1 hs),
        List.reverse_append, List.reverse_cons, List.append_assoc, List.singleton_append]
    · intro p hp
      obtain ⟨t, ht, htp⟩ := List.mem_filterMap.1 (List.mem_reverse.1 hp)
      rw [bne_iff_ne]
      rintro rfl
      exact hafter t ht p.2 ((gives_iff _ _ _).2 htp)
  · rintro ⟨later, earlier, hgiven, hlater⟩
    have hsplit : segs.filterMap Segment.parameter? =
        earlier.reverse ++ (key, value) :: later.reverse := by
      rw [← List.reverse_reverse (segs.filterMap _), hgiven, List.reverse_append,
        List.reverse_cons, List.append_assoc, List.singleton_append]
    obtain ⟨before, tail, rfl, -, htail⟩ := List.filterMap_eq_append_iff.1 hsplit
    obtain ⟨skipped, s, after, rfl, -, hs, hafter⟩ := List.filterMap_eq_cons_iff.1 htail
    refine ⟨before ++ skipped, s, after, by simp, (gives_iff _ _ _).2 hs, fun t ht other h => ?_⟩
    have hmem : (key, other) ∈ later.reverse :=
      hafter ▸ List.mem_filterMap.2 ⟨t, ht, (gives_iff _ _ _).1 h⟩
    exact absurd (hlater _ (List.mem_reverse.1 hmem)) (by simp)

theorem lookup_overlay (ps base : Parameters) (key : String) :
    (overlay ps base).lookup key = (ps.reverse.lookup key).or (base.lookup key) := by
  induction ps generalizing base with
  | nil => rfl
  | cons p r ih =>
    obtain ⟨k, value⟩ := p
    rw [List.reverse_cons, List.lookup_append, Option.or_assoc]
    refine (ih (put k value base)).trans (congrArg _ ?_)
    by_cases h : key = k
    · subst h
      simp [lookup_put_self]
    · simp [lookup_put_of_ne h, List.lookup_cons, beq_false_of_ne h]

theorem mem_names_overlay (ps base : Parameters) (key : String) :
    key ∈ (overlay ps base).map Prod.fst ↔ key ∈ ps.map Prod.fst ∨ key ∈ base.map Prod.fst := by
  induction ps generalizing base with
  | nil => exact (or_iff_right List.not_mem_nil).symm
  | cons p r ih =>
    refine (ih (put p.1 p.2 base)).trans ?_
    rw [map_fst_put]
    grind

theorem nodup_overlay (ps : Parameters) {base : Parameters} (h : (base.map Prod.fst).Nodup) :
    ((overlay ps base).map Prod.fst).Nodup := by
  induction ps generalizing base with
  | nil => exact h
  | cons p r ih =>
    exact ih (nodup_put p.1 p.2 h)

theorem keptArguments_of_keyless {args : List String}
    (h : ∀ arg ∈ args, ∀ key, ¬ IsKey arg key) :
    keptArguments args = args ∧ extraParameters args = [] := by
  have hsegments := (splits_iff _ _).1 (splits_of_keyless h)
  rw [keptArguments, extraParameters, hsegments, List.filterMap_map, List.filterMap_map]
  refine ⟨List.filterMap_some, ?_⟩
  have hnone : args.filterMap (Segment.parameter? ∘ Segment.kept) = [] :=
    List.filterMap_eq_nil_iff.2 fun _ _ => rfl
  rw [hnone, overlay, List.foldl_nil]

theorem lookup_extraParameters (args : List String) (key : String) :
    (extraParameters args).lookup key =
      ((segments args).filterMap Segment.parameter?).reverse.lookup key := by
  rw [extraParameters, lookup_overlay, List.lookup_nil, Option.or_none]

theorem nodup_extraParameters (args : List String) :
    ((extraParameters args).map Prod.fst).Nodup :=
  nodup_overlay _ List.nodup_nil

theorem separated_segments (args : List String) : Separated args (segments args) where
  splits := splits_segments args
  only := fun other h => ((splits_iff args other).1 h).symm
  kept := rfl
  order := (splits_segments args).kept_sublist
  keyless := (splits_segments args).keyless
  given_iff := fun key value => by rw [lookup_extraParameters, lastGiven_iff]
  distinct := nodup_extraParameters args
  settled := keptArguments_of_keyless (splits_segments args).keyless

/-- Every argument list is taken apart in one way. Two lists can be taken apart one after the other,
with the parameters of the second one laid over those of the first, unless a key at the end of the
first takes the beginning of the second for its value. -/
theorem separated_append (xs ys : List String) :
    (∃ segs, Separated xs segs) ∧ (¬ Straddles xs ys →
      keptArguments (xs ++ ys) = keptArguments xs ++ keptArguments ys ∧
        ∀ key, (extraParameters (xs ++ ys)).lookup key =
          ((extraParameters ys).lookup key).or ((extraParameters xs).lookup key)) := by
  refine ⟨⟨_, separated_segments xs⟩, fun h => ⟨?_, fun key => ?_⟩⟩
  · rw [keptArguments, segments_append h, List.filterMap_append]
    rfl
  · rw [lookup_extraParameters, lookup_extraParameters, lookup_extraParameters,
      segments_append h, List.filterMap_append, List.reverse_append, List.lookup_append]

theorem separated_append_overridden :
    ¬ Straddles ["in.md", "--extra-pretty"] ["--extras-pretty", "no", "-v"] ∧
      keptArguments ["in.md", "--extra-pretty", "--extras-pretty", "no", "-v"] = ["in.md", "-v"] ∧
        (extraParameters ["in.md", "--extra-pretty", "--extras-pretty", "no", "-v"]).lookup
          "pretty" = some "no" := by
  have h : ¬ Straddles ["in.md", "--extra-pretty"] ["--extras-pretty", "no", "-v"] := by
    rintro ⟨-, value, ⟨⟩, hplain⟩
    exact absurd hplain (by decide)
  obtain ⟨-, hlists⟩ := separated_append ["in.md", "--extra-pretty"] ["--extras-pretty", "no", "-v"]
  obtain ⟨hkept, hgiven⟩ := hlists h
  exact ⟨h, hkept, hgiven "pretty"⟩

end MarkdownToAdf.Cli
