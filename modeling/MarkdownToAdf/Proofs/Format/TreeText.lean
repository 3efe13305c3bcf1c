import MarkdownToAdf.Proofs.Format.TreeRows
import Mathlib

set_option autoImplicit false

/-!
# What a tree text determines

A tree text can be read back: its rows from their ends, the place of a node from what is drawn
to its left, its kind from the icon, and the rest from the label. What the text does not show
is lost: the marks if they are hidden, where links lead, the end of a long text, and whether
the rows of a table are numbered.
-/
namespace MarkdownToAdf.Format
open Adf Text

section Splitting
variable {α : Type} {R : α → α → Prop} {p : α → Prop} {a a' b b' : List α}

theorem forall₂_of_append (hp : ∀ x y, R x y → (p x ↔ p y)) (ha : ∀ x ∈ a, p x)
    (ha' : ∀ x ∈ a', p x) (hb : ∀ x ∈ b.head?, ¬ p x) (hb' : ∀ x ∈ b'.head?, ¬ p x)
    (h : List.Forall₂ R (a ++ b) (a' ++ b')) : List.Forall₂ R a a' ∧ List.Forall₂ R b b' := by
  induction a generalizing a' with
  | nil =>
    cases a' with
    | nil => exact ⟨.nil, h⟩
    | cons x' a' =>
      obtain ⟨x, b, hx, -, rfl⟩ := List.forall₂_cons_right_iff.1 h
      exact absurd ((hp x x' hx).2 (ha' x' (List.mem_cons_self ..))) (hb x rfl)
  | cons x a ih =>
    obtain ⟨hxp, ha⟩ := List.forall_mem_cons.1 ha
    cases a' with
    | nil =>
      obtain ⟨x', b', hx, -, rfl⟩ := List.forall₂_cons_left_iff.1 h
      exact absurd ((hp x x' hx).1 hxp) (hb' x' rfl)
    | cons x' a' =>
      obtain ⟨hx, h⟩ := List.forall₂_cons.1 h
      obtain ⟨haa, hbb⟩ := ih ha (List.forall_mem_cons.1 ha').2 h
      exact ⟨.cons hx haa, hbb⟩

theorem append_inj_of_head (ha : ∀ x ∈ a, p x) (ha' : ∀ x ∈ a', p x)
    (hb : ∀ x ∈ b.head?, ¬ p x) (hb' : ∀ x ∈ b'.head?, ¬ p x) (h : a ++ b = a' ++ b') :
    a = a' ∧ b = b' := by
  rw [← List.forall₂_eq_eq_eq] at h ⊢
  exact forall₂_of_append (by rintro x _ rfl; rfl) ha ha' hb hb' h

end Splitting

/-- Two nodes of which a tree text shows the same, their children apart. -/
@[mk_iff]
structure ShownAlike (showMarks : Bool) (a b : Node) : Prop where
  kind : a.kind = b.kind
  level : a.level? = b.level?
  language : a.language? = b.language?
  url : a.url? = b.url?
  literal : a.text?.map shorten = b.text?.map shorten
  marks : showMarks = true → a.marks.map Mark.kind = b.marks.map Mark.kind

inductive Alike (showMarks : Bool) : Node → Node → Prop where
  | mk {a b : Node} (own : ShownAlike showMarks a b)
      (content : List.Forall₂ (Alike showMarks) a.content b.content) : Alike showMarks a b

theorem ShownAlike.refl (showMarks : Bool) (n : Node) : ShownAlike showMarks n n :=
  ⟨rfl, rfl, rfl, rfl, rfl, fun _ => rfl⟩

theorem Alike.refl (showMarks : Bool) (n : Node) : Alike showMarks n n := by
  refine ⟨.refl showMarks n, List.forall₂_same.2 fun m hm => ?_⟩
  have hless : sizeOf m < sizeOf n :=
    Nat.lt_of_lt_of_le (List.sizeOf_lt_of_mem hm) (sizeOf_content_le n)
  exact Alike.refl showMarks m
  termination_by sizeOf n

/-- No address and no language in a document holds a line feed. -/
def KeepsLines (d : Document) : Prop :=
  ∀ n ∈ Node.preorderList d.content,
    (∀ url ∈ n.url?, '\n' ∉ url.toList) ∧ ∀ language ∈ n.language?, '\n' ∉ language.toList

instance (d : Document) : Decidable (KeepsLines d) :=
  inferInstanceAs (Decidable (∀ n ∈ Node.preorderList d.content,
    (∀ url ∈ n.url?, '\n' ∉ url.toList) ∧ ∀ language ∈ n.language?, '\n' ∉ language.toList))

theorem comma_not_mem_markKind (m : Mark) : ',' ∉ m.kind.toList :=
  (by decide : ∀ k ∈ markKinds, ',' ∉ k.toList) _ (kind_mem_markKinds m)

theorem comma_mem_intercalate (s t : String) (r : List String) :
    ',' ∈ (", ".intercalate (s :: t :: r)).toList := by
  simp [String.intercalate_cons_cons]

theorem intercalate_inj {s s' : String} {r r' : List String} (h : ∀ t ∈ s :: r, ',' ∉ t.toList)
    (h' : ∀ t ∈ s' :: r', ',' ∉ t.toList)
    (heq : ", ".intercalate (s :: r) = ", ".intercalate (s' :: r')) : s :: r = s' :: r' := by
  obtain ⟨hs, hr⟩ := List.forall_mem_cons.1 h
  obtain ⟨hs', hr'⟩ := List.forall_mem_cons.1 h'
  induction r generalizing s s' r' with
  | nil =>
    cases r' with
    | nil => simpa using heq
    | cons t' r' =>
      rw [String.intercalate_singleton] at heq
      exact absurd (heq ▸ comma_mem_intercalate s' t' r') hs
  | cons t r ih =>
    cases r' with
    | nil =>
      rw [String.intercalate_singleton] at heq
      exact absurd (heq ▸ comma_mem_intercalate s t r) hs'
    | cons t' r' =>
      simp only [String.intercalate_cons_cons, ← String.toList_inj, String.toList_append,
        List.append_assoc] at heq
      obtain ⟨hname, hrest⟩ := append_inj_of_head (p := fun c => c ≠ ',')
        (fun c hc heq => hs (heq ▸ hc)) (fun c hc heq => hs' (heq ▸ hc)) (by simp) (by simp) heq
      obtain ⟨ht, hr⟩ := List.forall_mem_cons.1 hr
      obtain ⟨ht', hr'⟩ := List.forall_mem_cons.1 hr'
      have hrest := ih (List.forall_mem_cons.2 ⟨ht, hr⟩) (List.forall_mem_cons.2 ⟨ht', hr'⟩)
        (String.toList_inj.1 (List.append_cancel_left hrest)) ht hr ht' hr'
      rw [String.toList_inj.1 hname, hrest]

theorem marksLabel_eq_iff (marks marks' : List Mark) :
    marksLabel marks = marksLabel marks' ↔ marks.map Mark.kind = marks'.map Mark.kind := by
  have hnames (ms : List Mark) : ∀ s ∈ ms.map Mark.kind, ',' ∉ s.toList :=
    List.forall_mem_map.2 fun m _ => comma_not_mem_markKind m
  cases marks with
  | nil => cases marks' <;> simp [marksLabel]
  | cons m ms =>
    cases marks' with
    | nil => simp [marksLabel]
    | cons m' ms' =>
      have hinj := intercalate_inj (hnames (m :: ms)) (hnames (m' :: ms'))
      simp only [marksLabel, List.isEmpty_cons, Bool.false_eq_true, if_false,
        String.append_left_inj, String.append_right_inj]
      exact ⟨hinj, fun h => by rw [h]⟩

theorem quote_append_inj {s t r r' : String} :
    quote s ++ r = quote t ++ r' ↔ s = t ∧ r = r' := by
  constructor
  · intro h
    rw [← String.toList_inj] at h
    simp only [quote, String.toList_append, String.toList_ofList, List.cons_append,
      List.append_assoc, List.cons.injEq, true_and, List.nil_append] at h
    obtain ⟨hs, hr⟩ := quoted_inj h
    exact ⟨String.toList_inj.1 hs, String.toList_inj.1 hr⟩
  · rintro ⟨rfl, rfl⟩
    rfl

theorem quote_inj {s t : String} : quote s = quote t ↔ s = t := by
  simpa using @quote_append_inj s t "" ""

theorem label_eq_iff (showMarks : Bool) {a b : Node} (hkind : a.kind = b.kind) :
    label showMarks a = label showMarks b ↔ ShownAlike showMarks a b := by
  rw [shownAlike_iff]
  -- Labels of different kinds may be confused, so only the fifteen pairs of one kind are looked at.
  cases a <;> cases b <;> simp [Node.kind] at hkind
  case codeBlock.codeBlock language _ language' _ =>
    cases language <;> cases language' <;>
      simp [label, Node.kind, Node.text?, Node.marks, ← String.toList_inj]
  case text.text =>
    cases showMarks <;>
      simp [label, Node.kind, Node.text?, Node.marks, quote_inj, quote_append_inj,
        marksLabel_eq_iff]
  all_goals simp [label, Node.kind, Node.text?, Node.marks]

theorem icon_spec :
    ∀ k ∈ nodeKinds, (icon k).toList.length = 1 ∧ ∀ l ∈ nodeKinds, icon k = icon l → k = l := by
  decide +kernel

theorem legend_eq_iff (showMarks : Bool) (a b : Node) :
    legend showMarks a = legend showMarks b ↔ ShownAlike showMarks a b := by
  obtain ⟨ha, hinj⟩ := icon_spec a.kind (kind_mem_nodeKinds a)
  obtain ⟨hb, -⟩ := icon_spec b.kind (kind_mem_nodeKinds b)
  constructor
  · intro h
    simp only [legend, ← String.toList_inj, String.toList_append, List.append_assoc] at h
    obtain ⟨hicon, hrest⟩ := List.append_inj h (ha.trans hb.symm)
    have hkind : a.kind = b.kind :=
      hinj b.kind (kind_mem_nodeKinds b) (String.toList_inj.1 hicon)
    exact (label_eq_iff showMarks hkind).1 (String.toList_inj.1 (List.append_cancel_left hrest))
  · intro h
    rw [legend, legend, h.kind, (label_eq_iff showMarks h.kind).2 h]

structure Site.Alike (showMarks : Bool) (p q : Site) : Prop where
  above : p.above = q.above
  last : p.last = q.last
  node : ShownAlike showMarks p.node q.node

theorem left_inj {above above' : List Bool} {last last' : Bool} {r r' : String}
    (h : leftOf above ++ connector last ++ r = leftOf above' ++ connector last' ++ r') :
    above = above' ∧ last = last' ∧ r = r' := by
  induction above generalizing above' with
  | nil =>
    cases above' with
    | nil =>
      revert h
      cases last <;> cases last' <;> simp [leftOf, connector, ← String.toList_inj]
    | cons x above' =>
      cases last <;> cases x <;> simp [leftOf, connector, ← String.toList_inj] at h
  | cons x above ih =>
    cases above' with
    | nil => cases last' <;> cases x <;> simp [leftOf, connector, ← String.toList_inj] at h
    | cons x' above' =>
      have hx : x = x' ∧
          leftOf above ++ connector last ++ r = leftOf above' ++ connector last' ++ r' := by
        rw [leftOf_cons, leftOf_cons] at h
        revert h
        cases x <;> cases x' <;> simp [← String.toList_inj]
      obtain ⟨rfl, hrest⟩ := hx
      obtain ⟨rfl, hlast, hr⟩ := ih hrest
      exact ⟨rfl, hlast, hr⟩

theorem Site.row_eq_iff (showMarks : Bool) (p q : Site) :
    p.row showMarks = q.row showMarks ↔ p.Alike showMarks q := by
  constructor
  · intro h
    obtain ⟨habove, hlast, hlegend⟩ := left_inj h
    exact ⟨habove, hlast, (legend_eq_iff showMarks _ _).1 hlegend⟩
  · rintro ⟨habove, hlast, hnode⟩
    rw [Site.row, Site.row, habove, hlast, (legend_eq_iff showMarks _ _).2 hnode]

theorem length_le_of_mem_sitesIn (above : List Bool) (nodes : List Node) :
    ∀ p ∈ sitesIn above nodes, above.length ≤ p.above.length := by
  induction above, nodes using sitesIn.induct with
  | case1 => simp [sitesIn]
  | case2 above n r ihContent ihRest =>
    intro p hp
    rw [sitesIn, List.cons_append, List.mem_cons, List.mem_append] at hp
    rcases hp with rfl | hp | hp
    · exact Nat.le_refl _
    · have hbelow := ihContent p hp
      rw [List.length_append] at hbelow
      exact Nat.le_trans (Nat.le_add_right ..) hbelow
    · exact ihRest p hp

theorem above_of_mem_head? (above : List Bool) (nodes : List Node) :
    ∀ p ∈ (sitesIn above nodes).head?, p.above = above := by
  cases nodes <;> simp [sitesIn]

/-- The rows below a node are those that begin further to the right, up to the next row that
does not. -/
theorem alike_of_sites {showMarks : Bool} {above : List Bool} {nodes nodes' : List Node}
    (h : List.Forall₂ (Site.Alike showMarks) (sitesIn above nodes) (sitesIn above nodes')) :
    List.Forall₂ (Alike showMarks) nodes nodes' := by
  induction above, nodes using sitesIn.induct generalizing nodes' with
  | case1 above =>
    cases nodes' with
    | nil => exact .nil
    | cons n' r' => simp [sitesIn] at h
  | case2 above n r ihContent ihRest =>
    cases nodes' with
    | nil => simp [sitesIn] at h
    | cons n' r' =>
      rw [sitesIn, sitesIn, List.cons_append, List.cons_append, List.forall₂_cons] at h
      obtain ⟨⟨-, hlast, hnode⟩, h⟩ := h
      rw [← show r.isEmpty = r'.isEmpty from hlast] at h
      have hbelow (c : List Node) :
          ∀ p ∈ sitesIn (above ++ [r.isEmpty]) c, above.length < p.above.length := by
        simpa [Nat.succ_le_iff] using length_le_of_mem_sitesIn (above ++ [r.isEmpty]) c
      have hbeside (c : List Node) :
          ∀ p ∈ (sitesIn above c).head?, ¬ above.length < p.above.length := by
        intro p hp
        rw [above_of_mem_head? above c p hp]
        exact Nat.lt_irrefl _
      obtain ⟨hcontent, hrest⟩ := forall₂_of_append
        (p := fun p : Site => above.length < p.above.length)
        (fun p q hpq => by rw [hpq.above]) (hbelow n.content) (hbelow n'.content) (hbeside r)
        (hbeside r') h
      exact .cons ⟨hnode, ihContent hcontent⟩ (ihRest hrest)

theorem sites_of_alike {showMarks : Bool} {above : List Bool} {nodes nodes' : List Node}
    (h : List.Forall₂ (Alike showMarks) nodes nodes') :
    List.Forall₂ (Site.Alike showMarks) (sitesIn above nodes) (sitesIn above nodes') := by
  induction above, nodes using sitesIn.induct generalizing nodes' with
  | case1 above =>
    cases h
    simp [sitesIn]
  | case2 above n r ihContent ihRest =>
    obtain ⟨n', r', ⟨hnode, hcontent⟩, hrest, rfl⟩ := List.forall₂_cons_left_iff.1 h
    have hempty : r.isEmpty = r'.isEmpty := by
      cases hrest <;> rfl
    rw [sitesIn, sitesIn, ← hempty]
    exact List.rel_append (.cons ⟨rfl, rfl, hnode⟩ (ihContent hcontent)) (ihRest hrest)

theorem map_row_eq_iff (showMarks : Bool) (above : List Bool) (nodes nodes' : List Node) :
    (sitesIn above nodes).map (Site.row showMarks)
        = (sitesIn above nodes').map (Site.row showMarks)
      ↔ List.Forall₂ (Alike showMarks) nodes nodes' := by
  rw [← List.forall₂_eq_eq_eq, List.forall₂_map_left_iff, List.forall₂_map_right_iff]
  constructor
  · intro h
    exact alike_of_sites (h.imp fun p q => (p.row_eq_iff showMarks q).1)
  · intro h
    exact (sites_of_alike h).imp fun p q => (p.row_eq_iff showMarks q).2

theorem join_lines_cons (row : String) (rows : List String) :
    (String.join ((row :: rows).map (· ++ "\n"))).toList
      = row.toList ++ '\n' :: (String.join (rows.map (· ++ "\n"))).toList := by
  simp [String.join_cons]

theorem lines_inj {rows rows' : List String} (h : ∀ row ∈ rows, '\n' ∉ row.toList)
    (h' : ∀ row ∈ rows', '\n' ∉ row.toList)
    (heq : String.join (rows.map (· ++ "\n")) = String.join (rows'.map (· ++ "\n"))) :
    rows = rows' := by
  rw [← String.toList_inj] at heq
  induction rows generalizing rows' with
  | nil =>
    cases rows' with
    | nil => rfl
    | cons row' rows' => simp at heq
  | cons row rows ih =>
    cases rows' with
    | nil => simp at heq
    | cons row' rows' =>
      obtain ⟨hrow, h⟩ := List.forall_mem_cons.1 h
      obtain ⟨hrow', h'⟩ := List.forall_mem_cons.1 h'
      rw [join_lines_cons, join_lines_cons] at heq
      obtain ⟨hfirst, hrest⟩ := append_inj_of_head (p := fun c => c ≠ '\n')
        (fun c hc heq => hrow (heq ▸ hc)) (fun c hc heq => hrow' (heq ▸ hc)) (by simp) (by simp) heq
      rw [String.toList_inj.1 hfirst, ih h h' (List.tail_eq_of_cons_eq hrest)]

theorem version_eq_of_titleRow {d d' : Document} (h : titleRow d = titleRow d') :
    d.version = d'.version := by
  have hdigits (n : Nat) : ∀ c ∈ n.repr.toList, c.isDigit = true := fun c hc =>
    Nat.isDigit_of_mem_toDigits (by decide) (by decide) (String.toList_ofList ▸ hc)
  have hcomma (s : List Char) : ∀ c ∈ (", ".toList ++ s).head?, ¬ c.isDigit = true := by
    simp
  simp only [titleRow, String.append_assoc, String.append_right_inj, Nat.toString_eq_repr] at h
  simp only [← String.toList_inj, String.toList_append] at h
  obtain ⟨hversion, -⟩ := append_inj_of_head (hdigits d.version) (hdigits d'.version)
    (hcomma _) (hcomma _) h
  exact Nat.repr_inj.1 (String.toList_inj.1 hversion)

theorem feeds_bare_of_keepsLines {d : Document} (h : KeepsLines d) :
    ∀ n ∈ Node.preorderList d.content, feeds (bare n) = 0 := by
  intro n hn
  obtain ⟨hurl, hlanguage⟩ := h n hn
  rw [feeds_eq_zero]
  cases n with
  | inlineCard url => exact hurl url rfl
  | codeBlock language c =>
    cases language with
    | none => simp [bare]
    | some language => exact hlanguage language rfl
  | _ => simp [bare]

theorem feed_not_mem_treeRows {d : Document} (h : KeepsLines d) (showMarks : Bool) :
    ∀ row ∈ treeRows showMarks d, '\n' ∉ row.toList := by
  rw [treeRows_eq]
  simp only [← feeds_eq_zero]
  refine List.forall_mem_cons.2 ⟨feeds_titleRow d, List.forall_mem_map.2 fun p hp => ?_⟩
  have hp : p.node ∈ Node.preorderList d.content :=
    map_node_sitesIn [] d.content ▸ List.mem_map_of_mem hp
  rw [p.feeds_row, feeds_bare_of_keepsLines h _ hp]

/-- A tree text is made of whole rows, one for each node and in order. A row determines where
its node stands and all that is shown of it, and the text determines the tree as far as it is
shown. -/
theorem treeText_eq_iff (showMarks : Bool) (d d' : Document) (h : KeepsLines d)
    (h' : KeepsLines d') :
    (∀ row ∈ treeRows showMarks d, '\n' ∉ row.toList)
      ∧ treeRows showMarks d = titleRow d :: (sitesIn [] d.content).map (Site.row showMarks)
      ∧ (∀ p q : Site, p.row showMarks = q.row showMarks ↔ p.Alike showMarks q)
      ∧ (treeText showMarks d = treeText showMarks d'
        ↔ d.version = d'.version ∧ List.Forall₂ (Alike showMarks) d.content d'.content) := by
  have hfeeds := feed_not_mem_treeRows h showMarks
  have hfeeds' := feed_not_mem_treeRows h' showMarks
  refine ⟨hfeeds, treeRows_eq showMarks d, Site.row_eq_iff showMarks, ?_, ?_⟩
  · intro htext
    have hrows : treeRows showMarks d = treeRows showMarks d' := lines_inj hfeeds hfeeds' htext
    rw [treeRows_eq, treeRows_eq, List.cons.injEq] at hrows
    exact ⟨version_eq_of_titleRow hrows.1, (map_row_eq_iff showMarks [] _ _).1 hrows.2⟩
  · rintro ⟨hversion, hcontent⟩
    rw [treeText, treeText, treeRows_eq, treeRows_eq, (map_row_eq_iff showMarks [] _ _).2 hcontent,
      titleRow, titleRow, hversion, hcontent.length_eq]

theorem treeText_eq_of_hrefs :
    treeText true ⟨1, [.codeBlock (some "sh") [.text "ls" []],
        .paragraph [.text "a" [.link "x"], .inlineCard "u"]]⟩
      = treeText true ⟨1, [.codeBlock (some "sh") [.text "ls" []],
        .paragraph [.text "a" [.link "y"], .inlineCard "u"]]⟩ := by
  refine (treeText_eq_iff true _ _ (by decide) (by decide)).2.2.2.2 ⟨rfl, ?_⟩
  have link : Alike true (.text "a" [.link "x"]) (.text "a" [.link "y"]) :=
    ⟨⟨rfl, rfl, rfl, rfl, rfl, fun _ => rfl⟩, .nil⟩
  have paragraph : Alike true (.paragraph [.text "a" [.link "x"], .inlineCard "u"])
      (.paragraph [.text "a" [.link "y"], .inlineCard "u"]) :=
    ⟨⟨rfl, rfl, rfl, rfl, rfl, fun _ => rfl⟩, .cons link (.cons (Alike.refl true _) .nil)⟩
  exact .cons (Alike.refl true _) (.cons paragraph .nil)

end MarkdownToAdf.Format
