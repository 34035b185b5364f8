import Mathlib.Data.List.Nodup
import Mathlib.Data.Set.Function
import SignatureBridge.Proofs.Declaration.IdentifierForms
import SignatureBridge.Proofs.Reflection.Assembling

/-!
# Names in snake case

Two names may have the same identifier, since underscores between words are dropped. Names in snake
case (`Identifier.IsSnakeCase`) do not: each of their words starts with a small letter, so in lower
camel case the capitals show where the words start (`camel_injective`), and the underscores in front
are still there. Escaping only adds an at sign, with which no such text starts. So `normalize` is
injective on these names (`injOn_normalize`), and a parameter list with different names in snake
case becomes a list with different identifiers.
-/

namespace SignatureBridge

namespace CodePoint

/-- A letter inside a word of snake case: a small letter or a digit. -/
def isSnakeLetter (c : CodePoint) : Bool := c.isSmallLetter || c.isAsciiDigit

/-- The capital form of a small letter is one letter, which is not small and leads back. -/
theorem exists_upper_of_isSmallLetter {c : CodePoint} (h : c.isSmallLetter = true) :
    ∃ x : CodePoint, c.upper = [x] ∧ x.isSnakeLetter = false ∧ x.lower = [c] := by
  have hval := isSmallLetter_iff.1 h
  obtain ⟨x, hx, hxval⟩ := exists_upper_eq (c := c) (by omega)
  have hlower := lower_upper (c := c) (by omega)
  rw [hx, Text.lower, List.flatMap_singleton, lower_of_small (.inl h)] at hlower
  refine ⟨x, hx, ?_, hlower⟩
  rw [if_pos hval] at hxval
  rw [← Bool.not_eq_true, isSnakeLetter, Bool.or_eq_true, isSmallLetter_iff, isAsciiDigit_iff,
    hxval]
  omega

end CodePoint

namespace Identifier

/-! ### Snake case -/

/-- A word of snake case: a small letter, then small letters and digits. -/
def IsSnakeWord (word : Text) : Prop :=
  ∃ c rest, word = c :: rest ∧ c.isSmallLetter = true ∧ rest.all CodePoint.isSnakeLetter = true

instance (word : Text) : Decidable (IsSnakeWord word) :=
  match word with
  | [] => isFalse fun ⟨c, rest, h, _⟩ ↦ List.cons_ne_nil c rest h.symm
  | c :: rest =>
    decidable_of_iff (c.isSmallLetter = true ∧ rest.all CodePoint.isSnakeLetter = true)
      ⟨fun h ↦ ⟨c, rest, rfl, h⟩, fun ⟨_, _, heq, h⟩ ↦ by cases heq; exact h⟩

/-- A name in snake case: underscores, or words with one underscore between them, perhaps behind
underscores. -/
inductive IsSnakeCase : Text → Prop
  | blank (n : Nat) : IsSnakeCase (List.replicate (n + 1) 95)
  | words (n : Nat) {ws : List Text} (hne : ws ≠ []) (hws : ∀ w ∈ ws, IsSnakeWord w) :
    IsSnakeCase (List.replicate n 95 ++ Text.join [95] ws)

/-- A name in snake case is a number of underscores and a list of words, not both nothing. -/
theorem IsSnakeCase.exists_parts {name : Text} (h : IsSnakeCase name) :
    ∃ n ws, name = List.replicate n 95 ++ Text.join [95] ws ∧ (∀ w ∈ ws, IsSnakeWord w) ∧
      (n ≠ 0 ∨ ws ≠ []) := by
  rcases h with n | ⟨n, hne, hws⟩
  · exact ⟨n + 1, [], (List.append_nil _).symm, fun w hw ↦ absurd hw List.not_mem_nil,
      .inl (Nat.succ_ne_zero n)⟩
  · exact ⟨n, _, rfl, hws, .inr hne⟩

theorem IsSnakeWord.not_mem {word : Text} (h : IsSnakeWord word) : 95 ∉ word := by
  obtain ⟨c, rest, rfl, hc, hrest⟩ := h
  have hclear : CodePoint.isSnakeLetter 95 = false := by decide
  intro hmem
  rcases List.mem_cons.1 hmem with rfl | hmem
  · exact absurd hc (by decide)
  · exact Bool.false_ne_true (hclear.symm.trans (List.all_eq_true.1 hrest 95 hmem))

/-! ### Words run together -/

/-- Words run together, each but the first with a capital. -/
def camel : List Text → Text
  | [] => []
  | w :: ws => w ++ ws.flatMap capitalized

/-- A word with a capital, and what stops it, are told apart. -/
theorem capitalized_append_inj {w v s t : Text} (hw : IsSnakeWord w) (hv : IsSnakeWord v)
    (hs : Text.StopsRun CodePoint.isSnakeLetter s) (ht : Text.StopsRun CodePoint.isSnakeLetter t)
    (h : capitalized w ++ s = capitalized v ++ t) : w = v ∧ s = t := by
  obtain ⟨c, rest, rfl, hc, hrest⟩ := hw
  obtain ⟨d, rest', rfl, hd, hrest'⟩ := hv
  obtain ⟨x, hx, -, hxc⟩ := CodePoint.exists_upper_of_isSmallLetter hc
  obtain ⟨y, hy, -, hyd⟩ := CodePoint.exists_upper_of_isSmallLetter hd
  rw [capitalized, capitalized, hx, hy] at h
  obtain ⟨rfl, htail⟩ := List.cons.inj h
  obtain rfl : c = d := List.singleton_inj.1 (hxc.symm.trans hyd)
  obtain ⟨rfl, rfl⟩ := Text.run_append_inj hrest hrest' hs ht htail
  exact ⟨rfl, rfl⟩

/-- Words with capitals start with a capital. -/
theorem stopsRun_flatMap_capitalized {ws : List Text} (h : ∀ w ∈ ws, IsSnakeWord w) :
    Text.StopsRun CodePoint.isSnakeLetter (ws.flatMap capitalized) := by
  rcases ws with - | ⟨w, ws⟩
  · exact Text.stopsRun_nil _
  · obtain ⟨c, rest, rfl, hc, -⟩ := h w List.mem_cons_self
    obtain ⟨x, hx, hcapital, -⟩ := CodePoint.exists_upper_of_isSmallLetter hc
    rw [List.flatMap_cons, capitalized, hx]
    exact Text.stopsRun_cons hcapital _

theorem capitalized_ne_nil {word : Text} (h : IsSnakeWord word) : capitalized word ≠ [] := by
  obtain ⟨c, rest, rfl, hc, -⟩ := h
  obtain ⟨x, hx, -⟩ := CodePoint.exists_upper_of_isSmallLetter hc
  rw [capitalized, hx]
  exact List.cons_ne_nil x _

/-- The capitals show where the words start. -/
theorem flatMap_capitalized_injective {ws vs : List Text} (hws : ∀ w ∈ ws, IsSnakeWord w)
    (hvs : ∀ v ∈ vs, IsSnakeWord v) (h : ws.flatMap capitalized = vs.flatMap capitalized) :
    ws = vs := by
  induction ws generalizing vs with
  | nil =>
    rcases vs with - | ⟨v, vs⟩
    · rfl
    · rw [List.flatMap_nil, List.flatMap_cons] at h
      exact absurd (List.append_eq_nil_iff.1 h.symm).1
        (capitalized_ne_nil (hvs v List.mem_cons_self))
  | cons w ws ih =>
    rcases vs with - | ⟨v, vs⟩
    · rw [List.flatMap_nil, List.flatMap_cons] at h
      exact absurd (List.append_eq_nil_iff.1 h).1
        (capitalized_ne_nil (hws w List.mem_cons_self))
    · rw [List.forall_mem_cons] at hws hvs
      rw [List.flatMap_cons, List.flatMap_cons] at h
      obtain ⟨rfl, hrest⟩ := capitalized_append_inj hws.1 hvs.1
        (stopsRun_flatMap_capitalized hws.2) (stopsRun_flatMap_capitalized hvs.2) h
      rw [ih hws.2 hvs.2 hrest]

/-- **Words can be told from what they give in lower camel case.** -/
theorem camel_injective {ws vs : List Text} (hws : ∀ w ∈ ws, IsSnakeWord w)
    (hvs : ∀ v ∈ vs, IsSnakeWord v) (h : camel ws = camel vs) : ws = vs := by
  have hne : ∀ {w : Text} (u : Text), IsSnakeWord w → w ++ u ≠ [] := by
    rintro w u ⟨c, rest, rfl, -⟩
    exact List.cons_ne_nil c _
  have hall : ∀ {w : Text}, IsSnakeWord w → w.all CodePoint.isSnakeLetter = true := by
    rintro w ⟨c, rest, rfl, hc, hrest⟩
    rw [List.all_cons, hrest, CodePoint.isSnakeLetter, hc]
    rfl
  rcases ws with - | ⟨w, ws⟩ <;> rcases vs with - | ⟨v, vs⟩
  · rfl
  · exact absurd h.symm (hne _ (hvs v List.mem_cons_self))
  · exact absurd h (hne _ (hws w List.mem_cons_self))
  · rw [List.forall_mem_cons] at hws hvs
    obtain ⟨rfl, hrest⟩ := Text.run_append_inj (hall hws.1) (hall hvs.1)
      (stopsRun_flatMap_capitalized hws.2) (stopsRun_flatMap_capitalized hvs.2) h
    rw [flatMap_capitalized_injective hws.2 hvs.2 hrest]

/-! ### Identifiers of snake case -/

/-- What a name in snake case is in lower camel case starts with an underscore or a small letter,
and the underscores in front of it end where the words start. -/
theorem stopsRun_camel {ws : List Text} (h : ∀ w ∈ ws, IsSnakeWord w) :
    Text.StopsRun (· = 95) (camel ws) := by
  rcases ws with - | ⟨w, ws⟩
  · exact Text.stopsRun_nil _
  · obtain ⟨c, rest, rfl, hc, -⟩ := h w List.mem_cons_self
    refine Text.stopsRun_cons (decide_eq_false ?_) _
    rintro rfl
    exact absurd hc (by decide)

theorem toCamelCase_snake (n : Nat) {ws : List Text} (h : ∀ w ∈ ws, IsSnakeWord w) :
    toCamelCase (List.replicate n 95 ++ Text.join [95] ws) = List.replicate n 95 ++ camel ws := by
  rcases ws with - | ⟨w, ws⟩
  · show toCamelCase (List.replicate n 95 ++ []) = List.replicate n 95 ++ []
    rw [List.append_nil, toCamelCase_underscores]
  have hwords : words (Text.join [95] (w :: ws)) = w :: ws := by
    rw [words, Text.split_join (List.cons_ne_nil w ws) fun v hv ↦ (h v hv).not_mem,
      List.filter_eq_self.2]
    intro v hv
    obtain ⟨c, rest, rfl, -⟩ := h v hv
    exact decide_eq_true (List.cons_ne_nil c rest)
  obtain ⟨c, rest, rfl, hc, -⟩ := h w List.mem_cons_self
  obtain ⟨x, hx, hcapital, hback⟩ := CodePoint.exists_upper_of_isSmallLetter hc
  have hne : c ≠ 95 ∧ x ≠ 95 := by
    have hc95 : CodePoint.isSmallLetter 95 = false := by decide
    refine ⟨fun h95 ↦ Bool.false_ne_true (hc95.symm.trans (h95 ▸ hc)), fun h95 ↦ ?_⟩
    rw [h95, show CodePoint.lower 95 = [95] by decide +kernel, List.singleton_inj] at hback
    exact Bool.false_ne_true (hc95.symm.trans (hback ▸ hc))
  have htogether : runTogether (Text.join [95] ((c :: rest) :: ws)) =
      x :: (rest ++ ws.flatMap capitalized) := by
    rw [runTogether, hwords, List.flatMap_cons, capitalized, hx]
    rfl
  have hjoin : Text.join [95] ((c :: rest) :: ws) =
      c :: (rest ++ ws.flatMap (([95] : Text) ++ ·)) := Text.join_cons _ _ _
  rw [toCamelCase_run, htogether, uncapitalized, hback]
  · rfl
  · rw [hjoin]
    exact Text.stopsRun_cons (decide_eq_false hne.1) _
  · rw [htogether]
    exact Text.stopsRun_cons (decide_eq_false hne.2) _

/-- Escaping tells texts apart that start with an underscore or a small letter. -/
theorem escape_inj {c d : CodePoint} {s t : Text} (hc : c = 95 ∨ c.isSmallLetter = true)
    (hd : d = 95 ∨ d.isSmallLetter = true) (h : escape (c :: s) = escape (d :: t)) :
    c :: s = d :: t := by
  -- with an at sign in front or unchanged, and the first letter tells which
  have hescape : ∀ {e : CodePoint} (u : Text), e = 95 ∨ e.isSmallLetter = true →
      escape (e :: u) = if IsReserved (e :: u) then 64 :: e :: u else e :: u := by
    intro e u he
    have hdigit : e.isDigit = false := by
      rcases he with rfl | he
      · exact isDigit_underscore
      · have hlt := (CodePoint.isSmallLetter_iff.1 he).2
        rw [CodePoint.isDigit_eq (by omega), CodePoint.not_isAsciiDigit_of_isSmallLetter he]
    split_ifs with hreserved
    · exact escape_of_isReserved hreserved
    · rw [escape_cons hreserved, hdigit]
      rfl
  have hmark : ∀ {e : CodePoint}, e = 95 ∨ e.isSmallLetter = true → 64 ≠ e := by
    rintro e (rfl | he)
    · decide
    · rintro rfl
      exact absurd he (by decide)
  rw [hescape s hc, hescape t hd] at h
  split_ifs at h
  · exact (List.cons.inj h).2
  · exact absurd (List.cons.inj h).1 (hmark hd)
  · exact absurd (List.cons.inj h).1.symm (hmark hc)
  · exact h

/-- **Different names in snake case have different identifiers.** -/
theorem injOn_normalize : Set.InjOn normalize {name | IsSnakeCase name} := by
  intro a ha b hb h
  obtain ⟨n, ws, rfl, hws, hne⟩ := IsSnakeCase.exists_parts ha
  obtain ⟨m, vs, rfl, hvs, hne'⟩ := IsSnakeCase.exists_parts hb
  rw [normalize, normalize, toCamelCase_snake n hws, toCamelCase_snake m hvs] at h
  have hstart : ∀ {k : Nat} {us : List Text}, (∀ u ∈ us, IsSnakeWord u) → k ≠ 0 ∨ us ≠ [] →
      ∃ c rest, List.replicate k 95 ++ camel us = c :: rest ∧
        (c = 95 ∨ c.isSmallLetter = true) := by
    intro k us hus hne
    rcases k with - | k
    · rcases us with - | ⟨u, us⟩
      · simp at hne
      · obtain ⟨c, rest, rfl, hc, -⟩ := hus u List.mem_cons_self
        exact ⟨c, _, rfl, .inr hc⟩
    · exact ⟨95, _, rfl, .inl rfl⟩
  obtain ⟨c, s, hcs, hc⟩ := hstart hws hne
  obtain ⟨d, t, hdt, hd⟩ := hstart hvs hne'
  rw [hcs, hdt] at h
  have hcamel := escape_inj hc hd h
  rw [← hcs, ← hdt] at hcamel
  obtain ⟨hrun, hwords⟩ := Text.run_append_inj (by simp) (by simp) (stopsRun_camel hws)
    (stopsRun_camel hvs) hcamel
  obtain rfl : n = m := by simpa using congrArg List.length hrun
  rw [camel_injective hws hvs hwords]

end Identifier

/-! ### Parameter lists -/

/-- The identifiers of a list come from the names of its proper entries. -/
theorem Parameter.map_identifier_of_declarations {ps : List Parameter} {ds : ParameterList}
    (h : declarations ps = .ok ds) :
    ds.map Declaration.identifier = ((proper ps).map Parameter.name).map Identifier.normalize := by
  have hentries := declarations_eq_ok_iff.1 h
  clear h
  generalize proper ps = qs at hentries
  induction hentries with
  | nil => rfl
  | cons hd _ ih =>
    rw [List.map_cons, List.map_cons, List.map_cons, ih, (declares_of_declare hd).identifier]

namespace Reflection

open Identifier (IsSnakeCase normalize)

/-- **Names in snake case never collide.** Two different names in snake case have different
identifiers. So if the proper entries of a parameter list have pairwise different names in snake
case and the list can be declared, the identifiers of its declarations are pairwise different. -/
theorem identifiers_of_snakeCase :
    Set.InjOn normalize {name | IsSnakeCase name} ∧
      ∀ {checkOrder : Bool} {ps : List Parameter} {ds : ParameterList},
        (∀ p ∈ Parameter.proper ps, IsSnakeCase p.name) →
        ((Parameter.proper ps).map Parameter.name).Nodup →
        (assemble checkOrder ps).1 = .ok ds → (ds.map Declaration.identifier).Nodup := by
  refine ⟨Identifier.injOn_normalize, fun {checkOrder ps ds} hsnake hnodup h ↦ ?_⟩
  rw [assemble_eq] at h
  rw [Parameter.map_identifier_of_declarations h]
  refine List.Nodup.map_on (fun a ha b hb hab ↦ ?_) hnodup
  obtain ⟨p, hp, rfl⟩ := List.mem_map.1 ha
  obtain ⟨q, hq, rfl⟩ := List.mem_map.1 hb
  exact Identifier.injOn_normalize (hsnake p hp) (hsnake q hq) hab

/-- Entries whose names differ in underscores only, one that is a reserved word, and a slash. -/
def underscoredSample : List Parameter :=
  [{ name := "my_arg" }, { name := "myarg" }, .slash, { name := "_my_arg" },
    { name := "class", keywordOnly := true }, { name := "__" }]

/-- The declarations of the sample have five different identifiers. -/
theorem identifiers_of_underscoredSample :
    normalize "my_arg" ≠ normalize "myarg" ∧
      ∃ ds, (assemble true underscoredSample).1 = .ok ds ∧ (ds.map Declaration.identifier).Nodup ∧
        ds.map Declaration.identifier = ["myArg", "myarg", "_myArg", "@class", "__"] := by
  obtain ⟨hinj, hlists⟩ := identifiers_of_snakeCase
  have hwords : ∀ (n : Nat) (w : Text) (ws : List Text),
      (∀ v ∈ w :: ws, Identifier.IsSnakeWord v) →
      IsSnakeCase (List.replicate n 95 ++ Text.join [95] (w :: ws)) := fun n w ws ↦
    .words n (List.cons_ne_nil w ws)
  have hmyArg : IsSnakeCase "my_arg" := hwords 0 "my" ["arg"] (by decide)
  have hmyarg : IsSnakeCase "myarg" := hwords 0 "myarg" [] (by decide)
  have hbehind : IsSnakeCase "_my_arg" := hwords 1 "my" ["arg"] (by decide)
  have hclass : IsSnakeCase "class" := hwords 0 "class" [] (by decide)
  have hblank : IsSnakeCase "__" := .blank 1
  have hsnake : ∀ p ∈ Parameter.proper underscoredSample, IsSnakeCase p.name := by
    show ∀ p ∈ ([{ name := "my_arg" }, { name := "myarg" }, { name := "_my_arg" },
      { name := "class", keywordOnly := true }, { name := "__" }] : List Parameter), _
    simp only [List.forall_mem_cons]
    exact ⟨hmyArg, hmyarg, hbehind, hclass, hblank, fun p hp ↦ absurd hp List.not_mem_nil⟩
  have hidentifiers : ((assemble true underscoredSample).1.toOption.map
      (List.map Declaration.identifier)) =
        some (["myArg", "myarg", "_myArg", "@class", "__"] : List Text) := by decide +kernel
  refine ⟨fun h ↦ absurd (hinj hmyArg hmyarg h) (by decide), ?_⟩
  rcases hlist : (assemble true underscoredSample).1 with cause | ds
  · rw [hlist] at hidentifiers
    cases hidentifiers
  · rw [hlist] at hidentifiers
    exact ⟨ds, rfl, hlists hsnake (by decide) hlist, Option.some.inj hidentifiers⟩

end Reflection

end SignatureBridge
