import WindowPlacement.Proofs.AllOrNothing
import WindowPlacement.Proofs.PropertyItems

/-!
# The top of the stack

A display lists its windows from the bottom of the stack to the top, in one property.  Only the
first items of a property are read, so of a long list the windows on top are missing, and `focus`
does not see them.
-/

namespace WindowPlacement

namespace Environment

variable {e : Environment} {d : Display} {words : List String} {config : Config}
  {pattern : TitlePattern}

/-- A run activates the last window of a stack that matches, or else fails because none does. -/
def FocusesIn (e : Environment) (words : List String) (d : Display) (pattern : TitlePattern)
    (stack : List WindowId) : Prop :=
  (∃ window, d.desktop.IsLastMatch pattern stack window ∧
      e.run words = .done (some ⟨window, "_NET_ACTIVE_WINDOW", [2, 0, 0, 0, 0]⟩)) ∨
    ((∀ window ∈ stack, ¬d.desktop.Matches pattern window) ∧
      e.run words = .failed (.command (.noMatch pattern.text)))

theorem focusesIn_of_answer {stack : List WindowId} (connected : e.display = some d)
    (answered : d.desktop.stackingOrder = .ok stack)
    (meant : e.Means words config (.focus pattern)) : e.FocusesIn words d pattern stack := by
  rcases Desktop.result_planFocus pattern answered with
    ⟨window, last, planned⟩ | ⟨no_match, planned⟩
  · have carried : (d.desktop.plan config.honorStruts (.focus pattern)).result =
        .ok (some (.activate window)) := Inquiry.result_map_eq_ok_iff.mpr ⟨_, planned, rfl⟩
    exact .inl ⟨window, last, run_of_plan_ok connected meant carried⟩
  · have given_up : (d.desktop.plan config.honorStruts (.focus pattern)).result =
        .error (.noMatch pattern.text) := by
      change (Inquiry.bind (d.desktop.planFocus pattern) _).result = _
      simp only [Inquiry.bind, planned]
    exact .inr ⟨no_match, run_of_plan_error connected meant given_up⟩

theorem stackingOrder_eq {p : Property}
    (listed : d.rootProperties.lookup "_NET_CLIENT_LIST_STACKING" = some p)
    (windows : p.type = "WINDOW") (wide : p.width = 32) :
    d.desktop.stackingOrder = .ok ((Property.wordsOfBytes p.bytes).take 1024) := by
  have answered := Display.words_of_present d.find?_rootId listed "WINDOW"
  rwa [if_pos windows, Property.words_eq_take wide] at answered

/-- Of a stack in a property, `focus` sees the first 1024 windows from the bottom. -/
theorem focuses_in_first_windows (e : Environment) (d : Display) (connected : e.display = some d)
    {p : Property} (listed : d.rootProperties.lookup "_NET_CLIENT_LIST_STACKING" = some p)
    (windows : p.type = "WINDOW") (wide : p.width = 32)
    (meant : e.Means words config (.focus pattern)) :
    e.FocusesIn words d pattern ((Property.wordsOfBytes p.bytes).take 1024) ∧
      ((Property.wordsOfBytes p.bytes).length ≤ 1024 →
        e.FocusesIn words d pattern (Property.wordsOfBytes p.bytes)) := by
  have seen : e.FocusesIn words d pattern ((Property.wordsOfBytes p.bytes).take 1024) :=
    focusesIn_of_answer connected (stackingOrder_eq listed windows wide) meant
  refine ⟨seen, fun short => ?_⟩
  rwa [List.take_of_length_le short] at seen

def untitled : DisplayWindow :=
  ⟨⟨0, 0, 100, 100⟩, []⟩

def editor : DisplayWindow :=
  ⟨⟨0, 0, 100, 100⟩, [("_NET_WM_NAME", ⟨"UTF8_STRING", 8, [101, 100, 105, 116, 111, 114]⟩)]⟩

def stackedNumbers (count : Nat) : List WindowId :=
  List.range' 1001 count ++ [1001 + count]

/-- A display with an editor on top of a number of windows without a title. -/
def stacked (count : Nat) : Display where
  rootId := 80
  rootArea := ⟨0, 0, 1920, 1080⟩
  rootProperties :=
    [("_NET_CLIENT_LIST_STACKING", .ofItems "WINDOW" 32 (stackedNumbers count))]
  xinerama := none
  windows :=
    (1001 + count, editor) :: (List.range' 1001 count).map fun window => (window, untitled)

section Stacked

variable {count : Nat} {pattern : TitlePattern}

theorem wordsOfBytes_stackedNumbers (bounded : count ≤ 4000000) :
    Property.wordsOfBytes (Property.ofItems "WINDOW" 32 (stackedNumbers count)).bytes =
      stackedNumbers count := by
  have small : ∀ item : Nat, item ∈ stackedNumbers count → item < 4294967296 := by
    intro item member
    rw [stackedNumbers, List.mem_append, List.mem_range'_1, List.mem_singleton] at member
    omega
  have items := Property.wordsOfBytes_flatMap_append small []
  have none_behind : Property.wordsOfBytes [] = [] := rfl
  rwa [none_behind, List.append_nil, List.append_nil] at items

theorem lookup_map_mk {value : DisplayWindow} {windows : List Nat} {window : Nat}
    (member : window ∈ windows) :
    (windows.map fun window => (window, value)).lookup window = some value := by
  induction windows with
  | nil => cases member
  | cons first rest ih =>
    rw [List.map_cons, List.lookup_cons]
    cases same : window == first with
    | true => rfl
    | false => exact ih ((List.mem_cons.mp member).resolve_left (beq_eq_false_iff_ne.mp same))

theorem not_matches_below {window : Nat} (member : window ∈ List.range' 1001 count) :
    ¬(stacked count).desktop.Matches pattern window := by
  have range := List.mem_range'_1.mp member
  have not_root : window ≠ 80 := by omega
  have not_top : (window == 1001 + count) = false := beq_eq_false_iff_ne.mpr (by omega)
  have known : (stacked count).find? window = some untitled := by
    simp only [Display.find?, stacked, if_neg not_root, List.lookup_cons, not_top]
    exact lookup_map_mk member
  have no_title : (stacked count).desktop.title window = .ok none := by
    simp only [Display.desktop, Display.title, Display.text, Display.property, Display.window,
      known, untitled]
    rfl
  rintro ⟨title, answered, -⟩
  rw [no_title] at answered
  cases answered

theorem decodeLenient_of_ascii {bytes : List UInt8} (ascii : ∀ b ∈ bytes, b < 0x80) :
    Text.decodeLenient bytes = bytes.map fun b => Char.ofNat b.toNat := by
  induction bytes with
  | nil => rw [Text.decodeLenient, List.map_nil]
  | cons b bytes ih =>
    rw [List.forall_mem_cons] at ascii
    rw [Text.decodeLenient, Text.firstChar, if_pos ascii.1, ih ascii.2, List.map_cons]

theorem title_top : (stacked count).desktop.title (1001 + count) = .ok (some "editor") := by
  have not_root : 1001 + count ≠ 80 := by omega
  have known : (stacked count).find? (1001 + count) = some editor := by
    simp only [Display.find?, stacked, if_neg not_root, List.lookup_cons, beq_self_eq_true]
  have text : (Property.mk "UTF8_STRING" 8 [101, 100, 105, 116, 111, 114]).text =
      some "editor" := by
    have ascii : ∀ b ∈ [101, 100, 105, 116, 111, 114], b < (0x80 : UInt8) := by simp
    exact congrArg (fun text => some (String.ofList text)) (decodeLenient_of_ascii ascii)
  have answered : (stacked count).text (1001 + count) "_NET_WM_NAME" (some "UTF8_STRING") =
      .ok (some "editor") := by
    simp only [Display.text, Display.property, Display.window, known, ← text]
    rfl
  simp only [Display.desktop, Display.title, answered]

/-- The editor on top is the last match for every pattern that accepts its title. -/
theorem isLastMatch_top (accepted : pattern.accepts "editor" = true) :
    (stacked count).desktop.IsLastMatch pattern (stackedNumbers count) (1001 + count) :=
  ⟨List.range' 1001 count, [], rfl, ⟨"editor", title_top, by decide, accepted⟩, by simp⟩

end Stacked

theorem exists_any_pattern : ∃ pattern, TitlePattern.ofArgument "match=" = .ok pattern ∧
    pattern.text = "" ∧ pattern.accepts "editor" = true := by
  have computed : (TitlePattern.ofArgument "match=").toOption.map
      (fun pattern => (pattern.text, pattern.accepts "editor")) = some ("", true) := by
    decide +kernel
  obtain ⟨pattern, read, told⟩ := Option.map_eq_some_iff.mp computed
  refine ⟨pattern, ?_, (Prod.mk.inj told).1, (Prod.mk.inj told).2⟩
  cases checked : TitlePattern.ofArgument "match=" with
  | error refusal =>
    rw [checked] at read
    cases read
  | ok found =>
    rw [checked] at read
    rw [Option.some.inj read]

def onStacked (count : Nat) : Environment :=
  ⟨fun _ => none, none, some (stacked count)⟩

theorem means_any_pattern {count : Nat} {pattern : TitlePattern}
    (read : TitlePattern.ofArgument "match=" = .ok pattern) :
    (onStacked count).Means ["focus", "match="] .default (.focus pattern) := by
  refine ⟨⟨none, .focus "match="⟩, rfl, rfl, ?_⟩
  rw [Invocation.command, read]
  rfl

/-- With an editor on top of two windows the stack is short, and the editor is focused. -/
theorem stacked_focuses_in_first_windows :
    ∃ pattern, TitlePattern.ofArgument "match=" = .ok pattern ∧
      (onStacked 2).FocusesIn ["focus", "match="] (stacked 2) pattern (stackedNumbers 2) := by
  obtain ⟨pattern, read, -, -⟩ := exists_any_pattern
  have items := wordsOfBytes_stackedNumbers (show 2 ≤ 4000000 by decide)
  have focuses := (focuses_in_first_windows (onStacked 2) (stacked 2) rfl rfl rfl rfl
    (means_any_pattern read)).2
  rw [items] at focuses
  exact ⟨pattern, read, focuses (by decide)⟩

/-- With an editor on top of 1024 windows nothing is found, although the editor is the last
match. -/
theorem stacked_overlooks_top :
    ∃ pattern, TitlePattern.ofArgument "match=" = .ok pattern ∧
      (stacked 1024).desktop.IsLastMatch pattern (Property.wordsOfBytes
        (Property.ofItems "WINDOW" 32 (stackedNumbers 1024)).bytes) 2025 ∧
      (onStacked 1024).run ["focus", "match="] = .failed (.command (.noMatch "")) := by
  obtain ⟨pattern, read, text, accepted⟩ := exists_any_pattern
  have items := wordsOfBytes_stackedNumbers (show 1024 ≤ 4000000 by decide)
  have answered := stackingOrder_eq (d := stacked 1024) rfl rfl rfl
  -- The editor is the item behind the last one that is read.
  have first : (stackedNumbers 1024).take 1024 = List.range' 1001 1024 := by
    rw [stackedNumbers, List.take_append_of_le_length (by simp)]
    exact List.take_of_length_le (by simp)
  rw [items, first] at answered
  refine ⟨pattern, read, ?_, ?_⟩
  · rw [items]
    exact isLastMatch_top accepted
  · rcases focusesIn_of_answer rfl answered (means_any_pattern read) with
      ⟨window, ⟨below, above, split, matched, -⟩, -⟩ | ⟨-, failed⟩
    · have member : window ∈ List.range' 1001 1024 := by simp [split]
      exact absurd matched (not_matches_below member)
    · rw [failed, text]

end Environment

end WindowPlacement
