import MarkdownToAdf.Cli.Run
import MarkdownToAdf.Proofs.Cli.Extras
import MarkdownToAdf.Proofs.Format.Switches

set_option autoImplicit false

/-!
# The parameters of a run

The parameter of a format comes from the extra arguments. Without one, JSON is laid out as the
configuration and the command line ask for, and a tree shows its marks.
-/
namespace MarkdownToAdf.Cli
open Adf Format

/-- What a format writes with the parameters that it visits, of which the extra ones decide. -/
structure Follows (format parameter : String) (default : Bool)
    (render : Bool → Document → String) (extras visited : Parameters) (d : Document) : Prop where
  written_iff : (∃ text, Registry.builtIn.writeWith format visited d = .ok text) ↔
    ∀ p ∈ extras, p.1 = parameter ∧ ∃ b, Says p.2 b
  given : ∀ text, Registry.builtIn.writeWith format visited d = .ok text →
    ∀ value, (parameter, value) ∈ extras → ∃ b, Says value b ∧ text = render b d
  unset : ∀ text, Registry.builtIn.writeWith format visited d = .ok text →
    (∀ p ∈ extras, p.1 ≠ parameter) → text = render default d

theorem says_toString (b : Bool) : Says (toString b) b := by
  cases b with
  | true => exact .yes (by decide)
  | false => exact .no (by decide)

section
variable {format parameter : String} {default b : Bool} {render : Bool → Document → String}
variable {extras base order visited : Parameters}

theorem overlay_singleton (hbase : Settles parameter true base default) (value : String) :
    overlay [(parameter, value)] base = [(parameter, value)] := by
  cases hbase with
  | unset => rfl
  | given => simp [overlay, put]

theorem settles_overlay_iff (hbase : Settles parameter true base default)
    (hdistinct : (extras.map Prod.fst).Nodup) :
    Settles parameter true (overlay extras base) b ↔ Settles parameter default extras b := by
  constructor
  · intro h
    have hnames : ∀ p ∈ extras, p.1 = parameter := by
      intro p hp
      have hname := (mem_names_overlay extras base p.1).2 (.inl (List.mem_map_of_mem hp))
      obtain ⟨q, hq, hsame⟩ := List.mem_map.1 hname
      exact hsame.symm.trans (h.names q hq)
    rcases eq_of_names hdistinct hnames with rfl | ⟨value, rfl⟩
    · rw [hbase.eq h]
      exact .unset
    · rw [overlay_singleton hbase] at h
      cases h with
      | given hvalue => exact .given hvalue
  · intro h
    cases h with
    | unset => exact hbase
    | given hvalue =>
      rw [overlay_singleton hbase]
      exact .given hvalue

theorem follows_of_perm (hswitched : Switched format parameter render)
    (hbase : Settles parameter true base default) (hdistinct : (extras.map Prod.fst).Nodup)
    (horder : order.Perm extras) (hvisited : visited.Perm (overlay order base)) (d : Document) :
    Follows format parameter default render extras visited d := by
  have hdistinct' : (order.map Prod.fst).Nodup := (horder.map _).nodup_iff.2 hdistinct
  have hnodup : (visited.map Prod.fst).Nodup :=
    (hvisited.map _).nodup_iff.2 (nodup_overlay order hbase.nodup)
  have hsettles (b : Bool) :
      Settles parameter true visited b ↔ Settles parameter default extras b := by
    rw [settles_perm_iff hvisited, settles_overlay_iff hbase hdistinct', settles_perm_iff horder]
  have hwritten (text : String) : Registry.builtIn.writeWith format visited d = .ok text ↔
      ∃ b, Settles parameter default extras b ∧ render b d = text := by
    rw [hswitched.writeWith_eq_ok_iff hnodup]
    simp only [hsettles]
  refine ⟨?_, fun text h value hmem => ?_, fun text h hunset => ?_⟩
  · rw [← exists_settles_iff hdistinct default]
    simp only [hwritten]
    constructor
    · rintro ⟨text, b, hb, -⟩
      exact ⟨b, hb⟩
    · rintro ⟨b, hb⟩
      exact ⟨_, b, hb, rfl⟩
  · obtain ⟨b, hb, rfl⟩ := (hwritten text).1 h
    cases hb with
    | unset => cases hmem
    | given hvalue =>
      cases List.mem_singleton.1 hmem
      exact ⟨b, hvalue, rfl⟩
  · obtain ⟨b, hb, rfl⟩ := (hwritten text).1 h
    cases hb with
    | unset => rfl
    | given => exact absurd rfl (hunset _ (List.mem_singleton_self _))

end

/-- Extra parameters win over the configuration and the command line. Without them JSON is laid out
by these, and a tree does not care. In whatever order parameters are visited, the same texts are
written, and a single refused parameter gives the same error. -/
theorem follows_options {extras : Parameters} (hdistinct : (extras.map Prod.fst).Nodup)
    (pretty compact : Bool) (d : Document) :
    (∀ order visited, order.Perm extras →
      visited.Perm (formatOptions "json" pretty compact order) →
        Follows "json" "pretty" (pretty && !compact) jsonText extras visited d) ∧
      (∀ order visited, order.Perm extras →
        visited.Perm (formatOptions "treeviz" pretty compact order) →
          Follows "treeviz" "show-marks" true treeText extras visited d) ∧
      ∀ format ps qs, (ps.map Prod.fst).Nodup → ps.Perm qs → OrderFree format ps qs d := by
  refine ⟨fun order visited horder hvisited => ?_, fun order visited horder hvisited => ?_,
    fun format ps qs hps h => orderFree_of_perm hps h d⟩
  · exact follows_of_perm .json (.given (says_toString _)) hdistinct horder hvisited d
  · exact follows_of_perm .tree .unset hdistinct horder hvisited d

theorem follows_options_off :
    ([("pretty", "OFF")].map Prod.fst).Nodup ∧
      Registry.builtIn.writeWith "json" (formatOptions "json" true false [("pretty", "OFF")])
        ⟨1, [.rule]⟩ = .ok (jsonText false ⟨1, [.rule]⟩) := by
  have hdistinct : ([("pretty", "OFF")].map Prod.fst).Nodup := by decide
  have hoff : Says "OFF" false := .no (by decide)
  obtain ⟨hjson, -, -⟩ := follows_options hdistinct true false ⟨1, [.rule]⟩
  have hfollows := hjson _ _ (.refl _) (.refl _)
  obtain ⟨text, htext⟩ := hfollows.written_iff.2 (List.forall_mem_singleton.2 ⟨rfl, false, hoff⟩)
  obtain ⟨b, hb, rfl⟩ := hfollows.given text htext "OFF" (List.mem_singleton_self _)
  rw [htext, hb.eq hoff]
  exact ⟨hdistinct, rfl⟩

end MarkdownToAdf.Cli
