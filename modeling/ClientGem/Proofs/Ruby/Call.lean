import ClientGem.Proofs.Text.Split
import ClientGem.Ruby.Source

/-!
Calls and method headers read as text: what is called, and the arguments between the parentheses.
-/

namespace ClientGem.Ruby.Call

def callee (call : String) : String :=
  String.ofList (call.toList.takeWhile (· != '('))

def argumentChars (cs : List Char) : List (List Char) :=
  (Text.splitChars (· == ',') cs).map (·.dropWhile (· == ' '))

def arguments (call : String) : List String :=
  match call.toList.dropWhile (· != '(') with
  | [] => []
  | _ :: rest => (argumentChars rest.dropLast).map String.ofList

def keyword (argument : String) : String :=
  String.ofList (argument.toList.takeWhile (· != ':'))

def IsArgument (text : List Char) : Prop :=
  ',' ∉ text ∧ text.head? ≠ some ' '

instance (text : List Char) : Decidable (IsArgument text) :=
  inferInstanceAs (Decidable (_ ∧ _))

theorem argumentChars_blank (cs : List Char) : argumentChars (' ' :: cs) = argumentChars cs := by
  simp only [argumentChars, Text.splitChars_eq_splitOnP, List.splitOnP_cons_eq_if_modifyHead]
  cases cs.splitOnP (· == ',') with
  | nil => rfl
  | cons piece pieces => simp [List.modifyHead]

theorem dropWhile_blank {text : List Char} (isArgument : IsArgument text) :
    text.dropWhile (· == ' ') = text := by
  cases text with
  | nil => rfl
  | cons c text =>
    have notBlank : c ≠ ' ' := by simpa using isArgument.2
    simp [notBlank]

theorem argumentChars_intercalate {texts : List (List Char)} (ne_nil : texts ≠ [])
    (each : ∀ text ∈ texts, IsArgument text) :
    argumentChars (List.intercalate [',', ' '] texts) = texts := by
  induction texts with
  | nil => exact absurd rfl ne_nil
  | cons text texts ih =>
    have isArgument := each text List.mem_cons_self
    have whole : ∀ c ∈ text, (c == ',') = false := Text.beq_eq_false_of_not_mem isArgument.1
    cases texts with
    | nil =>
      rw [List.intercalate_singleton, argumentChars, Text.splitChars_of_forall whole]
      simp [dropWhile_blank isArgument]
    | cons next texts =>
      have rest := ih (List.cons_ne_nil next texts)
        (fun other member => each other (List.mem_cons_of_mem _ member))
      have cut : argumentChars (text ++ ',' :: ' ' :: List.intercalate [',', ' '] (next :: texts)) =
          text :: argumentChars (' ' :: List.intercalate [',', ' '] (next :: texts)) := by
        simp only [argumentChars]
        rw [Text.splitChars_append_cons whole rfl, List.map_cons, dropWhile_blank isArgument]
      rw [List.intercalate_cons_cons, List.append_assoc]
      exact cut.trans (by rw [argumentChars_blank, rest])

section Applied

variable {name : String} (args : List String) (no_paren : '(' ∉ name.toList)
include no_paren

theorem takes_name : ∀ c ∈ name.toList, (c != '(') = true := by
  intro c member
  exact bne_iff_ne.mpr (fun same => no_paren (same ▸ member))

theorem callee_applied : callee (applied name args) = name := by
  have taken := takes_name no_paren
  unfold callee applied
  split
  · have whole : (name.toList ++ []).takeWhile (· != '(') = name.toList ++ [] :=
      List.takeWhile_append_of_pos taken
    rw [List.append_nil] at whole
    rw [whole, String.ofList_toList]
  · simp only [String.toList_append, List.append_assoc]
    rw [List.takeWhile_append_of_pos taken]
    simp

theorem arguments_applied (each : ∀ arg ∈ args, IsArgument arg.toList) :
    arguments (applied name args) = args := by
  have taken := takes_name no_paren
  unfold arguments applied
  cases args with
  | nil =>
    have nothing : (name.toList ++ []).dropWhile (· != '(') = [] :=
      List.dropWhile_append_of_pos taken
    rw [List.append_nil] at nothing
    simp [nothing]
  | cons arg args =>
    have read : argumentChars (List.intercalate [',', ' '] (arg.toList :: args.map String.toList)) =
        arg.toList :: args.map String.toList :=
      argumentChars_intercalate (List.cons_ne_nil _ _) (by simpa using each)
    simp only [List.isEmpty_cons, Bool.false_eq_true, ↓reduceIte, String.toList_append,
      List.append_assoc]
    rw [List.dropWhile_append_of_pos taken]
    simp [read, Function.comp_def]

end Applied

end ClientGem.Ruby.Call
