import AreFoundation.Library.Traverse
import AreFoundation.OpaIntegration.Evaluator

open EcmaScript

namespace OpaIntegration

section Lines

variable {cs : List Char} {w : Char}

-- Two lines that are the same once they are trimmed, whatever stands before them.
def SameLine (l l' : List Char) : Prop :=
  ∀ front, trim (String.ofList (front ++ l)) = trim (String.ofList (front ++ l'))

theorem splitOn_concat (h : isWhiteSpace w) (hn : w ≠ '\n') (cs : List Char) :
    List.Forall₂ SameLine ((cs ++ [w]).splitOn '\n') (cs.splitOn '\n') := by
  have refl (l : List Char) : SameLine l l := fun _ => rfl
  simp only [List.splitOn]
  induction cs
  case nil =>
    have single : [w].splitOnP (· == '\n') = [[w]] := by simp [List.splitOnP_cons_eq_if_modifyHead, hn]
    rw [List.nil_append, single, List.splitOnP_nil]
    exact .cons (fun front => by simpa using trim_concat h) .nil
  case cons c cs hi =>
    rw [List.cons_append, List.splitOnP_cons_eq_if_modifyHead, List.splitOnP_cons_eq_if_modifyHead]
    split
    case isTrue => exact .cons (refl []) hi
    case isFalse =>
      generalize (cs ++ [w]).splitOnP (· == '\n') = pieces at hi
      generalize cs.splitOnP (· == '\n') = pieces' at hi
      cases hi
      case nil => exact .nil
      case cons hl hi => exact .cons (fun front => by simpa using hl (front ++ [c])) hi

theorem significantLines_congr {cs cs' : List Char}
    (h : (cs.splitOn '\n').map (trim <| String.ofList ·) =
      (cs'.splitOn '\n').map (trim <| String.ofList ·)) :
    significantLines (String.ofList cs) = significantLines (String.ofList cs') := by
  rw [significantLines, significantLines, String.toList_ofList, String.toList_ofList, h]

theorem significantLines_cons (h : isWhiteSpace w) :
    significantLines (String.ofList (w :: cs)) = significantLines (String.ofList cs) := by
  by_cases hn : w = '\n'
  case pos =>
    subst hn
    have split : ('\n' :: cs).splitOn '\n' = [] :: cs.splitOn '\n' :=
      List.splitOnP_append_cons [] cs (by decide)
    simp [significantLines, split, trim]
  case neg =>
    apply significantLines_congr
    simp only [List.splitOn, List.splitOnP_cons_eq_if_modifyHead, beq_iff_eq, hn, if_false]
    cases cs.splitOnP (· == '\n')
    case nil  => rfl
    case cons => rw [List.modifyHead_cons, List.map_cons, List.map_cons, trim_cons h]

theorem significantLines_concat (h : isWhiteSpace w) :
    significantLines (String.ofList (cs ++ [w])) = significantLines (String.ofList cs) := by
  by_cases hn : w = '\n'
  case pos =>
    subst hn
    have split : (cs ++ ['\n']).splitOn '\n' = cs.splitOn '\n' ++ [[]] :=
      List.splitOnP_append_cons cs [] (by decide)
    simp [significantLines, split, trim]
  case neg =>
    apply significantLines_congr
    rw [← List.forall₂_eq_eq_eq, List.forall₂_map_left_iff, List.forall₂_map_right_iff]
    exact (splitOn_concat h hn cs).imp fun _ _ hl => hl []

-- White space around the whole text is white space around lines.
theorem significantLines_trim (source : String) :
    significantLines (trim source) = significantLines source := by
  have front (cs : List Char) : significantLines (String.ofList (cs.dropWhile isWhiteSpace)) =
      significantLines (String.ofList cs) := by
    induction cs
    case nil => rfl
    case cons c cs hi =>
      rw [List.dropWhile_cons]
      split
      case isTrue h  => exact hi.trans (significantLines_cons h).symm
      case isFalse h => rfl
  have back (cs : List Char) : significantLines (String.ofList (cs.rdropWhile isWhiteSpace)) =
      significantLines (String.ofList cs) := by
    induction cs using List.reverseRecOn
    case nil => rfl
    case append_singleton cs c hi =>
      rw [List.rdropWhile_concat]
      split
      case isTrue h  => exact hi.trans (significantLines_concat h).symm
      case isFalse h => rfl
  rw [trim, back, front, String.ofList_toList]

end Lines

section Rules

-- What a rule takes from its line.
structure CompiledFrom (line : String) (rule : PolicyRule) : Prop where
  effect         : ∃ token, (words line).head? = some token ∧ rule.effect.toRaw = token.toUpper
  actionClass    : labelled? "action=" (words line) = some rule.actionClass
  resourcePrefix : labelled? "prefix=" (words line) = rule.resourcePrefix

theorem toRaw_of_effect? (h : effect? token = some effect) : effect.toRaw = token.toUpper := by
  simpa using List.find?_some h

theorem compileLine_ok (h : compileLine idx line = .ok rule) : CompiledFrom line rule := by
  simp only [compileLine] at h
  -- The checks of the line do not change what is taken from it.
  iterate 4
    split at h
    case isTrue => cases h
  split at h
  case h_1 effect actionClass he ha =>
    obtain ⟨token, ht, he⟩ := Option.bind_eq_some_iff.mp he
    cases h
    exact ⟨⟨token, ht, toRaw_of_effect? he⟩, ha, rfl⟩
  case h_2 => cases h

theorem forall₂_compiledFrom (h : compileRegoLikeSource source = .ok rules) :
    List.Forall₂ CompiledFrom (significantLines source) rules := by
  simp only [compileRegoLikeSource] at h
  split at h
  case isTrue  => cases h
  case isFalse =>
    rw [Except.mapM_eq_ok_iff] at h
    rw [← significantLines_trim, ← List.zipIdx_map_fst 0 (significantLines _)]
    exact List.forall₂_map_left_iff.mpr <| h.imp fun _ _ => compileLine_ok

end Rules

section Render

theorem isInfix_of_mem_splitOnP {p : α → Bool} {xs : List α} (h : r ∈ xs.splitOnP p) : r <:+: xs := by
  -- The first piece is where the text begins, so that it can be extended in front.
  suffices pieces : (∀ r ∈ xs.splitOnP p, r <:+: xs) ∧ (∀ r ∈ (xs.splitOnP p).head?, r <+: xs) from
    pieces.left r h
  clear h
  induction xs
  case nil => simp [List.splitOnP_nil]
  case cons x xs hi =>
    rw [List.splitOnP_cons_eq_if_modifyHead]
    split
    case isTrue =>
      refine ⟨List.forall_mem_cons.mpr ⟨List.nil_infix, fun r hr => ?_⟩, by simp⟩
      exact List.infix_cons <| hi.left r hr
    case isFalse =>
      cases hs : xs.splitOnP p
      case nil => simp
      case cons piece pieces =>
        rw [hs] at hi
        have first : x :: piece <+: x :: xs :=
          (List.prefix_cons_inj x).mpr <| hi.right piece rfl
        refine ⟨List.forall_mem_cons.mpr ⟨first.isInfix, fun r hr => ?_⟩, by simpa using first⟩
        exact List.infix_cons <| hi.left r <| List.mem_cons_of_mem _ hr

-- A text that can stand after a label.
structure PlainText where
  text     : String
  nonempty : text ≠ ""
  noSpace  : ∀ c ∈ text.toList, isWhiteSpace c = false
  noEffect : ∀ effect : PolicyEffect, includes text.toUpper effect.toRaw = false

theorem PlainText.effect?_of_run (t : PlainText)
    (h : r ∈ t.text.toList.splitOnP (!isWordChar ·)) : effect? (String.ofList r) = none := by
  by_contra he
  obtain ⟨effect, he⟩ := Option.ne_none_iff_exists'.mp he
  have raw : effect.toRaw.toList = r.map Char.toUpper := by
    rw [toRaw_of_effect? he]
    simp [String.toUpper]
  have part : effect.toRaw.toList <:+: t.text.toUpper.toList := by
    rw [raw]
    simpa [String.toUpper] using (isInfix_of_mem_splitOnP h).map Char.toUpper
  simpa [includes, part] using t.noEffect effect

section Labels

variable {label p s : String} {parts : List String}

theorem labelled?_cons_of_neg (h : startsWith p label = false) :
    labelled? label (p :: parts) = labelled? label parts := by
  simp [labelled?, h]

theorem labelled?_cons_self : labelled? label ((label ++ s) :: parts) = some s := by
  have h : startsWith (label ++ s) label = true := by simp [startsWith]
  have found : ((label ++ s) :: parts).find? (startsWith · label) = some (label ++ s) :=
    List.find?_cons_of_pos h
  rw [labelled?, found, Option.map_some, String.toList_append, List.drop_left' String.length_toList,
    String.ofList_toList]

end Labels

structure Clause where
  effect : PolicyEffect
  action : PlainText
  pre    : PlainText

namespace Clause

variable (c : Clause)

def render : String :=
  c.effect.toRaw ++ " action=" ++ c.action.text ++ " prefix=" ++ c.pre.text

def rule (idx : Nat) : PolicyRule where
  ruleName       := c.effect.toRaw.toLower ++ "_rule_" ++ toString (idx + 1)
  actionClass    := c.action.text
  effect         := c.effect
  resourcePrefix := some c.pre.text

theorem toList_render : c.render.toList = c.effect.toRaw.toList ++ ' ' ::
    (("action=".toList ++ c.action.text.toList) ++ ' ' ::
      ("prefix=".toList ++ c.pre.text.toList)) := by
  simp [render]

theorem words_render : words c.render =
    [c.effect.toRaw, "action=" ++ c.action.text, "prefix=" ++ c.pre.text] := by
  have effect : c.effect.toRaw.toList.splitOnP isWhiteSpace = [c.effect.toRaw.toList] := by
    cases c.effect <;> rfl
  have action : ("action=".toList ++ c.action.text.toList).splitOnP isWhiteSpace =
      ["action=".toList ++ c.action.text.toList] :=
    List.splitOnP_eq_singleton <| List.forall_mem_append.mpr ⟨by simp [isWhiteSpace], c.action.noSpace⟩
  have pre : ("prefix=".toList ++ c.pre.text.toList).splitOnP isWhiteSpace =
      ["prefix=".toList ++ c.pre.text.toList] :=
    List.splitOnP_eq_singleton <| List.forall_mem_append.mpr ⟨by simp [isWhiteSpace], c.pre.noSpace⟩
  have split : c.render.toList.splitOnP isWhiteSpace =
      [c.effect.toRaw, "action=" ++ c.action.text, "prefix=" ++ c.pre.text].map String.toList := by
    rw [toList_render, List.splitOnP_append_cons _ _ rfl, List.splitOnP_append_cons _ _ rfl,
      effect, action, pre, ← String.toList_append, ← String.toList_append]
    rfl
  have nonempty : c.effect.toRaw ≠ "" := by cases c.effect <;> decide
  have kept : ([c.effect.toRaw, "action=" ++ c.action.text, "prefix=" ++ c.pre.text].map
      String.toList).filter (· ≠ []) = [c.effect.toRaw, "action=" ++ c.action.text,
        "prefix=" ++ c.pre.text].map String.toList := by
    apply List.filter_eq_self.mpr
    simp [nonempty]
  rw [words, split, kept, List.map_map]
  simp only [List.map_cons, List.map_nil, Function.comp_apply, String.ofList_toList]

theorem wordRuns_render : wordRuns c.render = c.effect.toRaw ::
    ("action" :: (c.action.text.toList.splitOnP (!isWordChar ·)).map String.ofList ++
      "prefix" :: (c.pre.text.toList.splitOnP (!isWordChar ·)).map String.ofList) := by
  have effect : c.effect.toRaw.toList.splitOnP (!isWordChar ·) = [c.effect.toRaw.toList] := by
    cases c.effect <;> rfl
  have action : ("action=".toList ++ c.action.text.toList).splitOnP (!isWordChar ·) =
      "action".toList :: c.action.text.toList.splitOnP (!isWordChar ·) :=
    List.splitOnP_append_cons "action".toList c.action.text.toList rfl
  have pre : ("prefix=".toList ++ c.pre.text.toList).splitOnP (!isWordChar ·) =
      "prefix".toList :: c.pre.text.toList.splitOnP (!isWordChar ·) :=
    List.splitOnP_append_cons "prefix".toList c.pre.text.toList rfl
  rw [wordRuns, toList_render, List.splitOnP_append_cons _ _ rfl, List.splitOnP_append_cons _ _ rfl,
    effect, action, pre]
  simp

theorem effect?_toRaw (effect : PolicyEffect) : effect? effect.toRaw = some effect := by
  cases effect <;> decide +kernel

theorem countP_effect?_render :
    (wordRuns c.render).countP (effect? · |>.isSome) = 1 := by
  have none_of (t : PlainText) : ((t.text.toList.splitOnP (!isWordChar ·)).map
      String.ofList).countP (effect? · |>.isSome) = 0 := by
    rw [List.countP_map, List.countP_eq_zero]
    intro r hr
    simp [t.effect?_of_run hr]
  have labels : (effect? "action").isSome = false ∧ (effect? "prefix").isSome = false := by
    decide +kernel
  rw [wordRuns_render, List.countP_cons, List.countP_append, List.countP_cons, List.countP_cons,
    none_of, none_of, labels.left, labels.right, effect?_toRaw]
  rfl

-- An occurrence does not depend on what stands before the character in front of it.
theorem mentionsAction_append (front : List Char) (h : mentionsAction (!isWordChar sep) rest) :
    mentionsAction boundary (front ++ sep :: rest) := by
  induction front generalizing boundary
  case nil       => simp [mentionsAction, h]
  case cons f hi => simp [mentionsAction, hi]

theorem mentionsAction_render : mentionsAction true c.render.toList := by
  rw [toList_render]
  apply mentionsAction_append
  cases ha : c.action.text.toList
  case nil => exact absurd (String.toList_eq_nil_iff.mp ha) c.action.nonempty
  case cons a as =>
    have space : isWhiteSpace a = false := c.action.noSpace a (by simp [ha])
    have blank : isWordChar ' ' = false := rfl
    simp [mentionsAction, space, blank]

theorem labelled?_action_render : labelled? "action=" (words c.render) = some c.action.text := by
  have effect : startsWith c.effect.toRaw "action=" = false := by cases c.effect <;> rfl
  rw [words_render, labelled?_cons_of_neg effect, labelled?_cons_self]

theorem labelled?_pre_render : labelled? "prefix=" (words c.render) = some c.pre.text := by
  have effect : startsWith c.effect.toRaw "prefix=" = false := by cases c.effect <;> rfl
  have action : startsWith ("action=" ++ c.action.text) "prefix=" = false := by
    simp [startsWith, List.isPrefixOf]
  rw [words_render, labelled?_cons_of_neg effect, labelled?_cons_of_neg action, labelled?_cons_self]

theorem compileLine_render (idx : Nat) : compileLine idx c.render = .ok (c.rule idx) := by
  have first : (wordRuns c.render).head?.bind effect? = some c.effect := by
    rw [wordRuns_render]
    exact effect?_toRaw c.effect
  have head : (words c.render).head?.bind effect? = some c.effect := by
    rw [words_render]
    exact effect?_toRaw c.effect
  have three : ¬(words c.render).length < 3 := by simp [words_render]
  simp only [compileLine, first, c.countP_effect?_render, c.mentionsAction_render, three, head,
    c.labelled?_action_render, c.labelled?_pre_render]
  rfl

theorem newline_not_mem_render : '\n' ∉ c.render.toList := by
  have effect : '\n' ∉ c.effect.toRaw.toList := by cases c.effect <;> simp [PolicyEffect.toRaw]
  have plain (t : PlainText) : '\n' ∉ t.text.toList :=
    fun h => Bool.false_ne_true <| (t.noSpace '\n' h).symm
  simp [toList_render, effect, plain]

theorem trim_render : trim c.render = c.render := by
  apply trim_eq_self
  case hf =>
    rw [toList_render]
    cases c.effect <;> simp [PolicyEffect.toRaw, isWhiteSpace]
  case hl =>
    intro d hd
    have last : c.pre.text.toList ≠ [] := c.pre.nonempty ∘ String.toList_eq_nil_iff.mp
    rw [render, String.toList_append, List.getLast?_append_of_ne_nil _ last] at hd
    exact c.pre.noSpace d <| List.mem_of_getLast? hd

theorem significant_render : ¬c.render = "" ∧ startsWith c.render "#" = false := by
  constructor
  case left =>
    rw [← String.toList_eq_nil_iff, toList_render]
    simp
  case right =>
    rw [startsWith, toList_render]
    cases c.effect <;> rfl

end Clause

def renderAll (clauses : List Clause) : String :=
  join "\n" (clauses.map (·.render))

theorem significantLines_renderAll (h : clauses ≠ []) :
    significantLines (renderAll clauses) = clauses.map (·.render) := by
  have split : (renderAll clauses).toList.splitOn '\n' =
      (clauses.map (·.render)).map String.toList :=
    splitOn_join (by simpa using h) (by simpa using fun c _ => c.newline_not_mem_render)
  have trimmed : (((clauses.map (·.render)).map String.toList).map (trim <| String.ofList ·)) =
      clauses.map (·.render) := by
    rw [List.map_map, List.map_map]
    exact List.map_congr_left fun c _ => by simpa using c.trim_render
  rw [significantLines, split, trimmed]
  apply List.filter_eq_self.mpr
  simpa using fun c _ => c.significant_render

theorem compileRegoLikeSource_renderAll (hn : clauses ≠ [])
    (h : includes (renderAll clauses) "invalid_rego" = false) :
    compileRegoLikeSource (renderAll clauses) =
      .ok (clauses.zipIdx.map fun p => p.1.rule p.2) := by
  have lines : significantLines (trim <| renderAll clauses) = clauses.map (·.render) :=
    (significantLines_trim _).trans <| significantLines_renderAll hn
  have nonempty : trim (renderAll clauses) ≠ "" := by
    intro he
    rw [he] at lines
    exact hn <| List.map_eq_nil_iff.mp lines.symm
  have accepted : includes (trim <| renderAll clauses) "invalid_rego" = false := by
    simp only [includes, decide_eq_false_iff_not] at h ⊢
    exact fun hi => h <| hi.trans <| isInfix_trim _
  simp only [compileRegoLikeSource, nonempty, accepted, lines, List.zipIdx_map]
  apply Except.mapM_eq_ok_iff.mpr
  rw [List.forall₂_map_left_iff, List.forall₂_map_right_iff, List.forall₂_same]
  exact fun p _ => p.1.compileLine_render p.2

end Render

theorem compileRegoLikeSource_lossless :
    (∀ source rules, compileRegoLikeSource source = .ok rules →
      List.Forall₂ CompiledFrom (significantLines source) rules) ∧
    (∀ clauses ≠ [], includes (renderAll clauses) "invalid_rego" = false →
      compileRegoLikeSource (renderAll clauses) =
        .ok (clauses.zipIdx.map fun p => p.1.rule p.2)) :=
  ⟨fun _ _ => forall₂_compiledFrom, fun _ => compileRegoLikeSource_renderAll⟩

end OpaIntegration
