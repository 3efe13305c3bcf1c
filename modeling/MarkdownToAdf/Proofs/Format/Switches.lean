import MarkdownToAdf.Proofs.Format.Registered

set_option autoImplicit false

/-!
# Parameters in any order

The built-in formats have one parameter each, a truth value. The order in which parameters are
looked at only matters if several of them are refused: then the first of these gives the error.
-/
namespace MarkdownToAdf.Format
open Adf

def small (value : String) : String :=
  String.ofList (value.toList.map Char.toLower)

inductive Says (value : String) : Bool → Prop
  | yes (h : small value ∈ ["true", "yes", "1", "on"]) : Says value true
  | no (h : small value ∈ ["false", "no", "0", "off"]) : Says value false

/-- What a parameter is refused for by a format that knows only the one with the given name. The
error has the value as it was written. -/
inductive Refused (format parameter : String) : String × String → FormatError → Prop
  | unknown {name value : String} (h : name ≠ parameter) :
    Refused format parameter (name, value) (.unknownParameter format name)
  | badValue {value : String} (h : ∀ b, ¬ Says value b) :
    Refused format parameter (parameter, value) (.badValue parameter value)

/-- The built-in formats, each with the name of its parameter and the text that it writes. -/
inductive Switched : String → String → (Bool → Document → String) → Prop
  | json : Switched "json" "pretty" jsonText
  | tree : Switched "treeviz" "show-marks" treeText

/-- The truth value that parameters make of a default, where no name is given twice. -/
inductive Settles (parameter : String) (default : Bool) : Parameters → Bool → Prop
  | unset : Settles parameter default [] default
  | given {value : String} {b : Bool} (h : Says value b) :
    Settles parameter default [(parameter, value)] b

theorem says_iff (value : String) (b : Bool) :
    Says value b ↔
      if b then small value ∈ ["true", "yes", "1", "on"]
        else small value ∈ ["false", "no", "0", "off"] := by
  constructor
  · rintro (h | h)
    · exact h
    · exact h
  · intro h
    cases b with
    | true => exact .yes h
    | false => exact .no h

theorem truth?_eq_some_iff (value : String) (b : Bool) : truth? value = some b ↔ Says value b := by
  have hsmall : String.ofList (value.toList.map Char.toLower) = small value := rfl
  rw [says_iff, truth?, hsmall]
  -- no word stands for both truth values
  generalize small value = word
  cases b <;> grind

theorem Says.eq {value : String} {b b' : Bool} (h : Says value b) (h' : Says value b') :
    b = b' := by
  rw [← truth?_eq_some_iff] at h h'
  exact Option.some.inj (h.symm.trans h')

section
variable {format parameter : String} {default b : Bool} {ps qs : Parameters}

theorem readTruth_eq_ok_iff (value : String) (b : Bool) :
    readTruth parameter value = .ok b ↔ Says value b := by
  rw [← truth?_eq_some_iff, readTruth]
  cases truth? value <;> simp

theorem Settles.nodup (h : Settles parameter default ps b) : (ps.map Prod.fst).Nodup := by
  cases h with
  | unset => exact List.nodup_nil
  | given => exact List.pairwise_singleton _ _

theorem Settles.names (h : Settles parameter default ps b) : ∀ p ∈ ps, p.1 = parameter := by
  cases h with
  | unset => exact List.forall_mem_nil _
  | given => exact List.forall_mem_singleton.2 rfl

theorem Settles.eq {b' : Bool} (h : Settles parameter default ps b)
    (h' : Settles parameter default ps b') : b = b' := by
  cases h with
  | unset =>
    cases h'
    rfl
  | given hvalue =>
    cases h' with
    | given hvalue' => exact hvalue.eq hvalue'

theorem Settles.of_perm (h : Settles parameter default ps b) (hperm : ps.Perm qs) :
    Settles parameter default qs b := by
  cases h with
  | unset =>
    rw [List.perm_nil.1 hperm.symm]
    exact .unset
  | given hvalue =>
    rw [List.perm_singleton.1 hperm.symm]
    exact .given hvalue

theorem settles_perm_iff (hperm : ps.Perm qs) :
    Settles parameter default ps b ↔ Settles parameter default qs b :=
  ⟨fun h => h.of_perm hperm, fun h => h.of_perm hperm.symm⟩

theorem eq_of_names (hdistinct : (ps.map Prod.fst).Nodup) (h : ∀ p ∈ ps, p.1 = parameter) :
    ps = [] ∨ ∃ value, ps = [(parameter, value)] := by
  cases ps with
  | nil => exact .inl rfl
  | cons p r =>
    obtain ⟨hname, hr⟩ := List.forall_mem_cons.1 h
    obtain ⟨hnew, -⟩ := List.nodup_cons.1 hdistinct
    have hempty : r = [] := by
      refine List.eq_nil_iff_forall_not_mem.2 fun q hq => hnew ?_
      rw [hname, ← hr q hq]
      exact List.mem_map_of_mem hq
    exact .inr ⟨p.2, by rw [hempty, ← hname]⟩

theorem exists_settles_iff (hdistinct : (ps.map Prod.fst).Nodup) (default : Bool) :
    (∃ b, Settles parameter default ps b) ↔ ∀ p ∈ ps, p.1 = parameter ∧ ∃ b, Says p.2 b := by
  constructor
  · rintro ⟨b, h⟩
    cases h with
    | unset => exact List.forall_mem_nil _
    | given hvalue => exact List.forall_mem_singleton.2 ⟨rfl, b, hvalue⟩
  · intro h
    rcases eq_of_names hdistinct fun p hp => (h p hp).1 with rfl | ⟨value, rfl⟩
    · exact ⟨default, .unset⟩
    · obtain ⟨-, b, hvalue⟩ := h _ (List.mem_singleton_self _)
      exact ⟨b, .given hvalue⟩

theorem readSwitch_singleton (default : Bool) (value : String) :
    readSwitch format parameter default [(parameter, value)] = readTruth parameter value := by
  rw [readSwitch, if_pos rfl]
  cases readTruth parameter value <;> rfl

theorem readSwitch_eq_ok_iff (hdistinct : (ps.map Prod.fst).Nodup) (default b : Bool) :
    readSwitch format parameter default ps = .ok b ↔ Settles parameter default ps b := by
  constructor
  · intro h
    have hunderstood := (readSwitch_ok_iff ps default).1 ⟨b, h⟩
    rcases eq_of_names hdistinct fun p hp => (hunderstood p hp).1 with rfl | ⟨value, rfl⟩
    · cases h
      exact .unset
    · rw [readSwitch_singleton, readTruth_eq_ok_iff] at h
      exact .given h
  · intro h
    cases h with
    | unset => rfl
    | given hvalue =>
      rw [readSwitch_singleton, readTruth_eq_ok_iff]
      exact hvalue

theorem Refused.error_eq {p : String × String} {e e' : FormatError}
    (h : Refused format parameter p e) (h' : Refused format parameter p e') : e = e' := by
  cases h with
  | unknown hne =>
    cases h' with
    | unknown => rfl
    | badValue => exact absurd rfl hne
  | badValue =>
    cases h' with
    | unknown hne => exact absurd rfl hne
    | badValue => rfl

theorem refused_of_readTruth {value : String} {e : FormatError}
    (h : readTruth parameter value = .error e) :
    Refused format parameter (parameter, value) e := by
  have hvalue : ∀ b, ¬ Says value b := by
    intro b hb
    rw [(readTruth_eq_ok_iff value b).2 hb] at h
    cases h
  rw [readTruth] at h
  split at h
  · cases h
  · cases h
    exact .badValue hvalue

theorem exists_refused {e : FormatError}
    (h : readSwitch format parameter default ps = .error e) :
    ∃ p ∈ ps, Refused format parameter p e := by
  fun_induction readSwitch format parameter default ps with
  | case1 => cases h
  | case2 default value r b htruth ih =>
    obtain ⟨p, hp, hrefused⟩ := ih h
    exact ⟨p, List.mem_cons_of_mem _ hp, hrefused⟩
  | case3 default value r e' htruth =>
    cases h
    exact ⟨_, List.mem_cons_self .., refused_of_readTruth htruth⟩
  | case4 default name value r hname =>
    cases h
    exact ⟨_, List.mem_cons_self .., .unknown hname⟩

theorem not_understood_of_refused {p : String × String} {e : FormatError} (hp : p ∈ ps)
    (h : Refused format parameter p e) : ¬ Understood parameter ps := by
  intro hunderstood
  obtain ⟨hname, htruth⟩ := hunderstood p hp
  cases h with
  | unknown hne => exact hne hname
  | badValue hvalue =>
    obtain ⟨b, hb⟩ := Option.isSome_iff_exists.1 htruth
    exact hvalue b ((truth?_eq_some_iff _ _).1 hb)

theorem readSwitch_eq_error {p : String × String} {e : FormatError} (hp : p ∈ ps)
    (h : Refused format parameter p e)
    (honly : ∀ q ∈ ps, ∀ e', Refused format parameter q e' → q = p) (default : Bool) :
    readSwitch format parameter default ps = .error e := by
  cases hread : readSwitch format parameter default ps with
  | ok b =>
    have hunderstood := (readSwitch_ok_iff ps default).1 ⟨b, hread⟩
    exact absurd hunderstood (not_understood_of_refused hp h)
  | error e' =>
    obtain ⟨q, hq, hrefused⟩ := exists_refused hread
    obtain rfl := honly q hq e' hrefused
    rw [h.error_eq hrefused]

end

section
variable {format parameter : String} {render : Bool → Document → String} {ps qs : Parameters}

theorem Switched.writeWith_eq (h : Switched format parameter render) (ps : Parameters)
    (d : Document) : Registry.builtIn.writeWith format ps d =
      (readSwitch format parameter true ps).map fun b => render b d := by
  cases h <;> rfl

theorem Switched.writeWith_eq_ok_iff (h : Switched format parameter render)
    (hdistinct : (ps.map Prod.fst).Nodup) (d : Document) (text : String) :
    Registry.builtIn.writeWith format ps d = .ok text ↔
      ∃ b, Settles parameter true ps b ∧ render b d = text := by
  rw [h.writeWith_eq, map_eq_ok_iff]
  simp only [readSwitch_eq_ok_iff hdistinct]

theorem switched_or_unknown (format : String) :
    (∃ parameter render, Switched format parameter render) ∨
      ∀ ps d, Registry.builtIn.writeWith format ps d = .error (.unknownFormat format) := by
  by_cases hknown : format ∈ Registry.builtIn.names
  · have hnames : format = "json" ∨ format = "treeviz" := by
      simpa [Registry.names, Registry.builtIn_entries] using hknown
    rcases hnames with rfl | rfl
    · exact .inl ⟨_, _, .json⟩
    · exact .inl ⟨_, _, .tree⟩
  · refine .inr fun ps d => ?_
    rw [Registry.writeWith, Registry.get_eq_error _ _ hknown]
    rfl

/-- What is the same in whatever order the parameters are visited. -/
structure OrderFree (format : String) (ps qs : Parameters) (d : Document) : Prop where
  written_iff : ∀ text, Registry.builtIn.writeWith format ps d = .ok text ↔
    Registry.builtIn.writeWith format qs d = .ok text
  refused : ∀ parameter render, Switched format parameter render → ∀ p ∈ ps, ∀ e,
    Refused format parameter p e →
      (∀ q ∈ ps, ∀ e', Refused format parameter q e' → q = p) →
        Registry.builtIn.writeWith format ps d = .error e ∧
          Registry.builtIn.writeWith format qs d = .error e

theorem orderFree_of_perm (hdistinct : (ps.map Prod.fst).Nodup) (h : ps.Perm qs) (d : Document) :
    OrderFree format ps qs d := by
  refine ⟨fun text => ?_, fun parameter render hswitched p hp e hrefused honly => ?_⟩
  · rcases switched_or_unknown format with ⟨parameter, render, hswitched⟩ | hunknown
    · have hdistinct' : (qs.map Prod.fst).Nodup := (h.map _).nodup_iff.1 hdistinct
      rw [hswitched.writeWith_eq_ok_iff hdistinct, hswitched.writeWith_eq_ok_iff hdistinct']
      simp only [settles_perm_iff h]
    · rw [hunknown, hunknown]
  · have hp' : p ∈ qs := h.mem_iff.1 hp
    have honly' : ∀ q ∈ qs, ∀ e', Refused format parameter q e' → q = p := fun q hq =>
      honly q (h.mem_iff.2 hq)
    rw [hswitched.writeWith_eq, hswitched.writeWith_eq, readSwitch_eq_error hp hrefused honly,
      readSwitch_eq_error hp' hrefused honly']
    exact ⟨rfl, rfl⟩

end

end MarkdownToAdf.Format
