import Mathlib.Data.List.Basic
import SignatureBridge.Proofs.Declaration.IdentifierLetters
import SignatureBridge.Proofs.Reflection.Declaring
import SignatureBridge.Proofs.Reflection.LiteralReading
import SignatureBridge.Proofs.Reflection.TypeRange

/-!
# The output can be read back

From the output text the functions can be told again: their number and order, and of each function
its name and, declaration by declaration, the type, the identifier and the text of the default
(`shown_eq_of_lines_eq`). No separator is reserved for this. A comma, a parenthesis or an equals
sign also occurs in types and in string literals, so reading goes through the parts in order, and
each part shows where it ends: a type by its grammar, an identifier and a word by the first code
point that cannot go on it, a string literal by its closing quote (`Declaration.tellsApart`,
`Signature.tellsApart`). A line feed occurs in no part, so the lines of the output are the
functions (`Signature.not_mem_lineFeed_of_reflect`).

All that is asked of the input is that the names of functions and parameters are plain. What the
names in the annotations and the texts of the defaults hold does not matter.
-/

namespace SignatureBridge

/-! ### Declarations -/

namespace Declaration

/-- What the output shows of a declaration: the type, the identifier and the text of the default. -/
def shown (d : Declaration) : TypeExpr × Text × Option Text :=
  (d.type, d.identifier, d.default.map Literal.text)

/-- The parts of a declaration show where they end. -/
structure IsReadable (d : Declaration) : Prop where
  type : d.type.InGrammar
  identifier : d.identifier.all CodePoint.isIdentifierLetter = true
  default : ∀ literal, d.default = some literal → literal.IsSpelled

/-- The type of a declaration is in the grammar, whatever the annotation holds. -/
theorem inGrammar_of_declares {p : Parameter} {d : Declaration} (h : p.Declares d) :
    d.type.InGrammar := by
  obtain ⟨a, -, htype⟩ := h.type
  have hgrammar : a.reflect.InGrammar := Annotation.inGrammar_reflect a
  rw [htype]
  split_ifs
  · exact hgrammar.asNullable
  · exact hgrammar

/-- The default of a declaration is spelled like a literal, whatever the default holds. -/
theorem isSpelled_of_declares {p : Parameter} {d : Declaration} (h : p.Declares d)
    {literal : Literal} (hliteral : d.default = some literal) : literal.IsSpelled := by
  rcases hdefault : p.effectiveDefault with - | c
  · rw [(h.required hdefault).1] at hliteral
    exact absurd hliteral (by simp)
  · obtain ⟨literal', hreflect, hsome⟩ := h.optional c hdefault
    obtain rfl : literal' = literal := Option.some.inj (hsome.symm.trans hliteral)
    exact Constant.isSpelled_of_reflect hreflect

/-- The declaration of a parameter with a plain name is readable, whatever its annotation and its
default hold. -/
theorem isReadable_of_declares {p : Parameter} {d : Declaration} (h : p.Declares d)
    (hname : p.name.all CodePoint.isPlain = true) :
    d.IsReadable := by
  refine ⟨inGrammar_of_declares h, ?_, fun literal hliteral ↦ isSpelled_of_declares h hliteral⟩
  rw [h.identifier]
  exact Identifier.all_normalize hname

/-- The default of a declaration as it is written. -/
def defaultText (d : Declaration) : Text :=
  match d.default with
  | some literal => [32, 61, 32] ++ literal.text
  | none => []

theorem render_append (d : Declaration) (u : Text) :
    d.render ++ u = d.type.render ++ (32 :: (d.identifier ++ (d.defaultText ++ u))) := by
  have h : d.render = d.type.render ++ [32] ++ d.identifier ++ d.defaultText := by
    rw [render, defaultText]
    rfl
  rw [h, List.append_assoc, List.append_assoc, List.append_assoc]
  rfl

/-- A text that may follow a declaration: it starts with a comma or a closing parenthesis. -/
def FollowsDeclaration (u : Text) : Prop := ∃ c w, u = c :: w ∧ (c = 44 ∨ c = 41)

theorem FollowsDeclaration.stopsRun {p : CodePoint → Bool} (hcomma : p 44 = false)
    (hclose : p 41 = false) {u : Text} (h : FollowsDeclaration u) : Text.StopsRun p u := by
  obtain ⟨c, w, rfl, rfl | rfl⟩ := h
  · exact Text.stopsRun_cons hcomma w
  · exact Text.stopsRun_cons hclose w

/-- What is written of a default is told apart, also where there is none. -/
theorem defaultText_append_inj {d e : Declaration} (hd : d.IsReadable) (he : e.IsReadable)
    {u v : Text} (hu : FollowsDeclaration u) (hv : FollowsDeclaration v)
    (h : d.defaultText ++ u = e.defaultText ++ v) :
    d.default.map Literal.text = e.default.map Literal.text ∧ u = v := by
  have hblank : ∀ {u w : Text}, FollowsDeclaration u → u ≠ 32 :: w := by
    rintro u w ⟨c, w', rfl, hc⟩ heq
    obtain rfl := (List.cons.inj heq).1
    exact absurd hc (by decide)
  rw [defaultText, defaultText] at h
  rcases hdefault : d.default with - | a <;> rcases hdefault' : e.default with - | b
    <;> rw [hdefault, hdefault'] at h
  · exact ⟨rfl, h⟩
  · exact absurd h (hblank hu)
  · exact absurd h.symm (hblank hv)
  · rw [List.append_assoc, List.append_assoc] at h
    obtain ⟨htext, hend⟩ := Literal.tellsApart (hd.default a hdefault) (he.default b hdefault') u v
      (hu.stopsRun (by decide) (by decide)) (hv.stopsRun (by decide) (by decide))
      (List.append_cancel_left h)
    exact ⟨congrArg some htext, hend⟩

/-- **Declarations are told apart** in front of a comma or a closing parenthesis, part by part. -/
theorem tellsApart {d e : Declaration} (hd : d.IsReadable) (he : e.IsReadable) :
    Text.TellsApart FollowsDeclaration render shown d e := by
  -- an identifier ends at the blank in front of a default, or where the declaration ends
  have hends : ∀ (d : Declaration) {u : Text}, FollowsDeclaration u →
      Text.StopsRun CodePoint.isIdentifierLetter (d.defaultText ++ u) := by
    intro d u hu
    rw [defaultText]
    split
    · exact Text.stopsRun_cons (by decide) _
    · exact hu.stopsRun (by decide) (by decide)
  intro u v hu hv h
  rw [render_append, render_append] at h
  obtain ⟨htype, hafter⟩ := TypeExpr.render_append_inj hd.type he.type _ _
    (TypeExpr.followsType_cons (by decide) _) (TypeExpr.followsType_cons (by decide) _) h
  obtain ⟨hidentifier, hdefault⟩ := Text.run_append_inj hd.identifier he.identifier (hends d hu)
    (hends e hv) (List.cons.inj hafter).2
  obtain ⟨htext, hend⟩ := defaultText_append_inj hd he hu hv hdefault
  exact ⟨by rw [shown, shown, hidentifier, htext, show d.type = e.type from htype], hend⟩

/-- A declaration never ends a line. -/
theorem IsReadable.not_mem_lineFeed {d : Declaration} (hd : d.IsReadable) : 10 ∉ d.render := by
  have h := d.render_append []
  rw [List.append_nil, List.append_nil] at h
  rw [h]
  intro hmem
  rcases List.mem_append.1 hmem with hmem | hmem
  · have := (hd.type.bounds_of_mem_render hmem).1
    exact absurd this (by decide)
  · rcases List.mem_cons.1 hmem with hmem | hmem
    · exact absurd hmem (by decide)
    · rcases List.mem_append.1 hmem with hmem | hmem
      · exact absurd (List.all_eq_true.1 hd.identifier 10 hmem) (by decide)
      · rw [defaultText] at hmem
        split at hmem
        · rename_i literal hliteral
          rcases List.mem_append.1 hmem with hmem | hmem
          · exact absurd hmem (by decide)
          · exact (hd.default literal hliteral).not_mem_lineFeed hmem
        · exact absurd hmem List.not_mem_nil

end Declaration

/-! ### Functions -/

namespace Signature

/-- The names of a function and of its parameters are plain. The bare slash has no name of its
own. -/
def HasPlainNames (s : Signature) : Prop :=
  s.name.all CodePoint.isPlain = true ∧
    ∀ p ∈ s.parameters, p.isSlash = false → p.name.all CodePoint.isPlain = true

instance (s : Signature) : Decidable s.HasPlainNames := inferInstanceAs (Decidable (_ ∧ _))

/-- What the output shows of a function: its name and what it shows of its declarations. -/
def shown (s : Signature) : Text × Except ReflectError (List (TypeExpr × Text × Option Text)) :=
  (s.name, (Parameter.declarations s.parameters).map fun ds ↦ ds.map Declaration.shown)

/-- The line of a function, which is empty if the function fails. -/
def line (s : Signature) : Text :=
  match s.reflect with
  | .ok t => t
  | .error _ => []

theorem exists_declarations_of_reflect {s : Signature} {t : Text} (h : s.reflect = .ok t) :
    ∃ ds, Parameter.declarations s.parameters = .ok ds ∧
      t = s.name ++ (40 :: (Text.join ", " (ds.map Declaration.render) ++ [41])) := by
  rw [reflect] at h
  rcases hds : Parameter.declarations s.parameters with cause | ds
  · rw [hds] at h
    exact absurd h (by simp [Except.map])
  · rw [hds] at h
    exact ⟨ds, rfl, (Except.ok.inj h).symm⟩

/-- All declarations of a function with plain names are readable. -/
theorem isReadable_of_mem {s : Signature} (hs : s.HasPlainNames) {ds : ParameterList}
    (hds : Parameter.declarations s.parameters = .ok ds) :
    ∀ d ∈ ds, d.IsReadable := by
  intro d hd
  obtain ⟨p, hp, hslash, hdeclares⟩ := Parameter.exists_declares_of_mem hds d hd
  exact Declaration.isReadable_of_declares hdeclares (hs.2 p hp hslash)

/-- **Functions are told apart**, whatever follows their lines. -/
theorem tellsApart {s t : Signature} (hs : s.HasPlainNames) (ht : t.HasPlainNames) {l l' : Text}
    (hl : s.reflect = .ok l) (hl' : t.reflect = .ok l') {u v : Text} (h : l ++ u = l' ++ v) :
    s.shown = t.shown ∧ u = v := by
  obtain ⟨ds, hds, rfl⟩ := exists_declarations_of_reflect hl
  obtain ⟨es, hes, rfl⟩ := exists_declarations_of_reflect hl'
  rw [List.append_assoc, List.append_assoc] at h
  -- the name stops at the opening parenthesis
  obtain ⟨hname, hlist⟩ := Text.run_append_inj hs.1 ht.1 (Text.stopsRun_cons (by decide) _)
    (Text.stopsRun_cons (by decide) _) h
  have hreadable := isReadable_of_mem hs hds
  have hreadable' := isReadable_of_mem ht hes
  have hsep : ∀ u, Declaration.FollowsDeclaration (Text.ofString ", " ++ u) :=
    fun u ↦ ⟨44, 32 :: u, rfl, Or.inl rfl⟩
  have hclose : ∀ u, Declaration.FollowsDeclaration (41 :: u) := fun u ↦ ⟨41, u, rfl, Or.inr rfl⟩
  have hdiffer : ∀ u v, Text.ofString ", " ++ u ≠ 41 :: v :=
    fun u v heq ↦ absurd (List.cons.inj heq).1 (by decide)
  -- a type never starts with a closing parenthesis, so no declaration looks like the end
  have hstart : ∀ d : Declaration, d.IsReadable → ∀ u v, d.render ++ u ≠ 41 :: v := by
    intro d hd u v
    rw [Declaration.render_append]
    exact hd.type.render_append_ne (f := ⟨"ValueTuple", true, "(", some 41⟩)
      (by decide +kernel) rfl _ v
  obtain ⟨hshown, hend⟩ := Text.join_append_inj hsep hclose hdiffer
    (fun d hd e he ↦ Declaration.tellsApart (hreadable d hd) (hreadable' e he))
      (fun d hd ↦ hstart d (hreadable d hd))
    (fun e he ↦ hstart e (hreadable' e he)) (by simpa using (List.cons.inj hlist).2)
  refine ⟨?_, hend⟩
  rw [shown, shown, hname, hds, hes]
  simp only [Except.map, hshown]

/-- The line of a function never ends early. -/
theorem not_mem_lineFeed_of_reflect {s : Signature} (hs : s.HasPlainNames) {l : Text}
    (hl : s.reflect = .ok l) : 10 ∉ l := by
  obtain ⟨ds, hds, rfl⟩ := exists_declarations_of_reflect hl
  intro hmem
  rcases List.mem_append.1 hmem with hmem | hmem
  · exact absurd (List.all_eq_true.1 hs.1 10 hmem) (by decide)
  · rcases List.mem_cons.1 hmem with hmem | hmem
    · exact absurd hmem (by decide)
    · rcases List.mem_append.1 hmem with hmem | hmem
      · rcases Text.mem_join hmem with hmem | ⟨piece, hpiece, hmem⟩
        · exact absurd hmem (by decide)
        · obtain ⟨d, hd, rfl⟩ := List.mem_map.1 hpiece
          exact (isReadable_of_mem hs hds d hd).not_mem_lineFeed hmem
      · exact absurd hmem (by decide)

/-! ### Whole outputs -/

/-- Where all functions succeed, the lines are theirs. -/
theorem lines_eq_map_line {ss : List Signature} {lines : List Text}
    (h : ss.map reflect = lines.map .ok) :
    lines = ss.map line ∧ ∀ s ∈ ss, s.reflect = .ok s.line := by
  have hok : ∀ s ∈ ss, s.reflect = .ok s.line := by
    intro s hs
    have hmem : s.reflect ∈ lines.map Except.ok := h ▸ List.mem_map_of_mem hs
    obtain ⟨l, -, hl⟩ := List.mem_map.1 hmem
    rw [line, ← hl]
  refine ⟨?_, hok⟩
  have hmap : lines.map (Except.ok : Text → Except ReflectError Text) = (ss.map line).map .ok := by
    rw [← h, List.map_map]
    exact List.map_congr_left hok
  exact List.map_injective_iff.2 (fun _ _ ↦ Except.ok.inj) hmap

/-- **The output can be read back.** Take two lists of functions with plain names that all succeed.
If their outputs are the same text, the lists are equally long and agree function by function in the
name and, declaration by declaration, in the type, the identifier and the text of the default. And
the lines of the output are the functions: cutting it at its line feeds gives back what was written
for each. -/
theorem shown_eq_of_lines_eq {ss ts : List Signature} {lines lines' : List Text}
    (hss : ∀ s ∈ ss, s.HasPlainNames) (hts : ∀ t ∈ ts, t.HasPlainNames)
    (hlines : ss.map reflect = lines.map .ok) (hlines' : ts.map reflect = lines'.map .ok)
    (h : Text.lines lines = Text.lines lines') :
    ss.map shown = ts.map shown ∧ Text.split 10 (Text.lines lines) = lines ++ [[]] := by
  obtain ⟨rfl, hok⟩ := lines_eq_map_line hlines
  obtain ⟨rfl, hok'⟩ := lines_eq_map_line hlines'
  refine ⟨?_, ?_⟩
  · refine Text.lines_inj ?_ h
    intro s hs t ht u v _ _ heq
    exact tellsApart (hss s hs) (hts t ht) (hok s hs) (hok' t ht) heq
  · refine Text.split_lines ?_
    intro l hl
    obtain ⟨s, hs, rfl⟩ := List.mem_map.1 hl
    exact not_mem_lineFeed_of_reflect (hss s hs) (hok s hs)

/-- A function whose annotation and default look like the end of a list and another function. -/
def trickySample (type : Text) : Signature where
  name := "f"
  parameters := [.slash,
    { name := "x_y", type := { name := type },
      default := some { form := .text, value := .text "\")\ng(" } }]

/-- Two annotations that stand for no type give the same output, on one line, and it shows the same
of both. -/
theorem shown_eq_of_samples :
    [trickySample "Foo"].map shown = [trickySample ") g("].map shown ∧
      Text.split 10 (Text.lines [(trickySample "Foo").line]) = [(trickySample "Foo").line, []] := by
  have hplain : ∀ s ∈ [trickySample "Foo"], s.HasPlainNames := by decide +kernel
  have hplain' : ∀ s ∈ [trickySample ") g("], s.HasPlainNames := by decide +kernel
  have hlines : [trickySample "Foo"].map reflect = [(trickySample "Foo").line].map .ok := by
    decide +kernel
  have hlines' : [trickySample ") g("].map reflect = [(trickySample "Foo").line].map .ok := by
    decide +kernel
  exact shown_eq_of_lines_eq hplain hplain' hlines hlines' rfl

end Signature

end SignatureBridge
