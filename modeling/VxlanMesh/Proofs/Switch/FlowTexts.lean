/-
  VxlanMesh.Proofs.Switch.FlowTexts
  ────────────────────────────────
  **WHAT A RULE SAYS TO THE SWITCH.**

  The match and the actions of a rule are texts.  The switch parts them at
  the commas that stand in no parentheses and reads each part by the name
  it begins with; numbers are decimal, or hexadecimal after `0x`, and have
  to fit their field.

      parts          a text between its outer commas
      fieldOf?       one field of a match
      actionOf?      one action
      rule?          a whole rule

  What the pipeline writes is read as it is meant, as long as its numbers
  fit: `rule?_toFlow` is the main result.
-/
import VxlanMesh.Overlay.Pipeline
import VxlanMesh.Proofs.Numeral.ReadBack
import VxlanMesh.Proofs.Shell.Arguments
import VxlanMesh.Text.Pattern

namespace VxlanMesh

open VxlanMesh.Numeral (decimal hexadecimal readBase?)

/-! ## §1. Rules as the switch has them. -/

/-- What a match asks of one field of a packet. -/
inductive MatchField where
  | inPort (ofport : Nat)
  | tunnelKey (key : Nat)
  | vlanTag (vlan : Nat)
  /-- The destination has the bits of the address where the mask has ones. -/
  | target (address mask : Nat)
  deriving Repr, DecidableEq

/-- What the switch can do with a packet. -/
inductive SwitchAction where
  | drop
  | resubmit (table : Nat)
  /-- Install a rule made from the packet; the packet stays as it is. -/
  | learn
  | setVlan (vlan : Nat)
  | stripVlan
  | setTunnel (key : Nat)
  | output (ofport : Nat)
  deriving Repr, DecidableEq

/-- A rule in a table of the switch; it fits packets that all fields of the match fit. -/
structure SwitchRule where
  table : Nat
  priority : Nat
  fields : List MatchField
  actions : List SwitchAction
  deriving Repr, DecidableEq

/-! ## §2. Reading. -/

namespace FlowText

/-- Numbers of tables end here. -/
def tableLimit : Nat := 255

/-- Numbers of ports from here on have other meanings. -/
def portLimit : Nat := 0xff00

/-- A VLAN number has twelve bits. -/
def vlanBound : Nat := 4096

/-- A tunnel key has sixty-four bits. -/
def keyBound : Nat := Numeral.twoToThe 64

/-- How deep in parentheses the text after a character is. -/
def depthAfter (depth : Nat) (c : Char) : Nat :=
  if c = '(' then depth + 1 else if c = ')' then depth - 1 else depth

/-- The parts of a text between the commas that stand in no parentheses. -/
def parts : Nat → List Char → List (List Char)
  | _, [] => [[]]
  | depth, c :: cs =>
      if c = ',' ∧ depth = 0 then [] :: parts 0 cs
      else match parts (depthAfter depth c) cs with
        | [] => [[c]]
        | part :: more => (c :: part) :: more

/-- A number. -/
def number? : List Char → Option Nat
  | '0' :: 'x' :: digits => readBase? 16 digits
  | digits => readBase? 10 digits

/-- A number below a bound. -/
def below? (bound : Nat) (value : List Char) : Option Nat := (number? value).filter (· < bound)

/-- Six bytes, the first one the highest. -/
def address? (value : List Char) : Option Nat :=
  ((Text.pieces ':' value).mapM (readBase? 16)).bind fun bytes =>
    if bytes.length = 6 ∧ bytes.all (· < 256) then some (bytes.foldl (fun n b => n * 256 + b) 0)
    else none

/-- An address and a mask. -/
def target? (value : List Char) : Option MatchField :=
  match Text.pieces '/' value with
  | [address, mask] => do some (.target (← address? address) (← address? mask))
  | _ => none

/-- Names of fields and actions consist of such characters. -/
def isNameChar (c : Char) : Bool := ('a' ≤ c && c ≤ 'z') || c == '_'

/-- The field of a match with a name and what follows it. -/
def fieldOf? : String → List Char → Option MatchField
  | "in_port", '=' :: value => (below? portLimit value).map .inPort
  | "tun_id", '=' :: value => (below? keyBound value).map .tunnelKey
  | "dl_vlan", '=' :: value => (below? vlanBound value).map .vlanTag
  | "dl_dst", '=' :: value => target? value
  | _, _ => none

/-- What stands before a closing parenthesis at the end. -/
def enclosed? (value : List Char) : Option (List Char) :=
  if value.getLast? = some ')' then some value.dropLast else none

/-- The action with a name and what follows it. -/
def actionOf? : String → List Char → Option SwitchAction
  | "drop", [] => some .drop
  | "resubmit", '(' :: ',' :: value => ((enclosed? value).bind (below? tableLimit)).map .resubmit
  | "learn", '(' :: value => (enclosed? value).map fun _ => .learn
  | "mod_vlan_vid", ':' :: value => (below? vlanBound value).map .setVlan
  | "strip_vlan", [] => some .stripVlan
  | "set_tunnel", ':' :: value => (below? keyBound value).map .setTunnel
  | "output", ':' :: value => (below? portLimit value).map .output
  | _, _ => none

/-- A part, read by the name it begins with. -/
def named? {α : Type} (read : String → List Char → Option α) (part : List Char) : Option α :=
  let (name, rest) := part.span isNameChar
  read (String.ofList name) rest

/-- The fields of a match; an empty one has none. -/
def fields? (text : String) : Option (List MatchField) :=
  if text.isEmpty then some [] else (parts 0 text.toList).mapM (named? fieldOf?)

/-- Actions. -/
def actions? (text : String) : Option (List SwitchAction) :=
  (parts 0 text.toList).mapM (named? actionOf?)

/-- A rule. -/
def rule? (rule : FlowRule) : Option SwitchRule := do
  some {
    table := rule.table.toNat
    priority := rule.priority.toNat
    fields := ← fields? rule.criteria
    actions := ← actions? rule.actions }

/-! ## §3. Parts. -/

/-- The text has no comma outside parentheses and closes those that it opens. -/
def isClosed : Nat → List Char → Bool
  | depth, [] => depth == 0
  | depth, c :: cs => !(c == ',' && depth == 0) && isClosed (depthAfter depth c) cs

/-- A closed text before a comma is the first part. -/
theorem parts_append {rest : List Char} : ∀ {depth : Nat} {part : List Char},
    isClosed depth part = true → parts depth (part ++ ',' :: rest) = part :: parts 0 rest := by
  intro depth part
  induction part generalizing depth with
  | nil =>
      intro h
      rw [isClosed, beq_iff_eq] at h
      rw [List.nil_append, parts, if_pos ⟨rfl, h⟩]
  | cons c cs ih =>
      intro h
      rw [isClosed, Bool.and_eq_true] at h
      have hinner : ¬ (c = ',' ∧ depth = 0) := by rintro ⟨rfl, rfl⟩; exact absurd h.1 (by decide)
      rw [List.cons_append, parts, if_neg hinner, ih h.2]

/-- A closed text alone is the only part. -/
theorem parts_closed : ∀ {depth : Nat} {part : List Char}, isClosed depth part = true →
    parts depth part = [part] := by
  intro depth part
  induction part generalizing depth with
  | nil => intro _; rfl
  | cons c cs ih =>
      intro h
      rw [isClosed, Bool.and_eq_true] at h
      have hinner : ¬ (c = ',' ∧ depth = 0) := by rintro ⟨rfl, rfl⟩; exact absurd h.1 (by decide)
      rw [parts, if_neg hinner, ih h.2]

/-- **Texts between commas are the parts of the whole.** -/
theorem parts_intercalate {texts : List (List Char)} (hne : texts ≠ [])
    (h : ∀ text ∈ texts, isClosed 0 text = true) : parts 0 ([','].intercalate texts) = texts := by
  induction texts with
  | nil => exact absurd rfl hne
  | cons text rest ih =>
      have htext := h text List.mem_cons_self
      cases rest with
      | nil => rw [List.intercalate_singleton, parts_closed htext]
      | cons next more =>
          have hmore := ih (List.cons_ne_nil _ _) fun other hother =>
            h other (List.mem_cons_of_mem text hother)
          rw [List.intercalate_cons_cons, List.append_assoc, List.singleton_append,
            parts_append htext, hmore]

/-- A character that neither parts a text nor encloses a part of it. -/
def isInner (c : Char) : Bool := c != ',' && c != '(' && c != ')'

/-- Such characters before a part can belong to it. -/
theorem isClosed_append {label part : List Char} (hlabel : ∀ c ∈ label, isInner c = true)
    (hpart : isClosed 0 part = true) : isClosed 0 (label ++ part) = true := by
  induction label with
  | nil => exact hpart
  | cons c cs ih =>
      obtain ⟨hc, hcs⟩ := List.forall_mem_cons.1 hlabel
      simp only [isInner, Bool.and_eq_true, bne_iff_ne] at hc
      rw [List.cons_append, isClosed, depthAfter, if_neg hc.1.2, if_neg hc.2, ih hcs,
        beq_eq_false_iff_ne.2 hc.1.1]
      rfl

/-- Characters that part and enclose nothing make a closed text. -/
theorem isClosed_inner {cs : List Char} (h : ∀ c ∈ cs, isInner c = true) :
    isClosed 0 cs = true := by
  rw [← List.append_nil cs]
  exact isClosed_append h rfl

/-- A part that begins with a name. -/
theorem named?_append {α : Type} (read : String → List Char → Option α) {name rest : List Char}
    (hname : ∀ c ∈ name, isNameChar c = true) (hrest : ∀ c ∈ rest.head?, isNameChar c = false) :
    named? read (name ++ rest) = read (String.ofList name) rest := by
  rw [named?, Shell.span_append hname hrest]

/-! ## §4. Numbers. -/

/-- What is read as a number consists of digits. -/
theorem digitValue?_of_readMore? {base n : Nat} {cs : List Char} : ∀ {acc : Nat},
    Numeral.readMore? base acc cs = some n → ∀ c ∈ cs, Numeral.digitValue? base c ≠ none := by
  induction cs with
  | nil => intro acc hread c hc; cases hc
  | cons d ds ih =>
      intro acc hread c hc
      rw [Numeral.readMore?] at hread
      cases hd : Numeral.digitValue? base d with
      | none => rw [hd] at hread; cases hread
      | some value =>
          rw [hd] at hread
          rcases List.mem_cons.1 hc with rfl | hmem
          · rw [hd]
            exact Option.some_ne_none value
          · exact ih hread c hmem

theorem digitValue?_of_mem_toDigits {base n : Nat} (h1 : 1 < base) (hb : base ≤ 16) {c : Char}
    (h : c ∈ Nat.toDigits base n) : Numeral.digitValue? base c ≠ none :=
  digitValue?_of_readMore? (Numeral.readMore?_toDigits h1 hb n) c h

theorem isInner_of_mem_toDigits {base n : Nat} (h1 : 1 < base) (hb : base ≤ 16) {c : Char}
    (h : c ∈ Nat.toDigits base n) : isInner c = true := by
  have hvalue := digitValue?_of_mem_toDigits h1 hb h
  simp only [isInner, Bool.and_eq_true, bne_iff_ne]
  refine ⟨⟨?_, ?_⟩, ?_⟩ <;> rintro rfl <;> exact hvalue rfl

/-- A name and a number in decimal make a closed text. -/
theorem isClosed_decimal {label : String} (hlabel : label.toList.all isInner = true) (n : Nat) :
    isClosed 0 (label ++ decimal n).toList = true := by
  rw [String.toList_append, Numeral.toList_decimal]
  exact isClosed_inner fun c hc => (List.mem_append.1 hc).elim
    (List.all_eq_true.1 hlabel c) (isInner_of_mem_toDigits (by decide) (by decide))

theorem toList_hexadecimal (n : Nat) :
    (hexadecimal n).toList = '0' :: 'x' :: Nat.toDigits 16 n := by
  rw [hexadecimal, String.toList_append, String.toList_ofList, String.toList_ofList]
  rfl

theorem isClosed_hexadecimal {label : String} (hlabel : label.toList.all isInner = true)
    (n : Nat) : isClosed 0 (label ++ hexadecimal n).toList = true := by
  have hmark : (['0', 'x'] : List Char).all isInner = true := by decide
  rw [String.toList_append, toList_hexadecimal,
    show '0' :: 'x' :: Nat.toDigits 16 n = ['0', 'x'] ++ Nat.toDigits 16 n from rfl]
  refine isClosed_inner fun c hc => (List.mem_append.1 hc).elim (List.all_eq_true.1 hlabel c)
    fun hvalue => (List.mem_append.1 hvalue).elim (List.all_eq_true.1 hmark c)
      (isInner_of_mem_toDigits (by decide) (by decide))

/-- **A number is read back from its decimal text**, which never begins with `0x`. -/
theorem number?_decimal (n : Nat) : number? (decimal n).toList = some n := by
  have hread : readBase? 10 (decimal n).toList = some n := by
    rw [Numeral.toList_decimal]
    exact Numeral.readBase?_toDigits (by decide) (by decide) n
  rw [number?.eq_def]
  split
  -- A decimal text has no letter.
  · rename_i digits hhex
    have hdigit : Numeral.isDigit 'x' = true :=
      Numeral.isDigit_of_mem_toDigits (n := n)
        (by rw [← Numeral.toList_decimal, hhex]; simp)
    exact absurd hdigit (by decide)
  · exact hread

/-- **A number is read back from its hexadecimal text.** -/
theorem number?_hexadecimal (n : Nat) : number? (hexadecimal n).toList = some n := by
  rw [toList_hexadecimal]
  exact Numeral.readBase?_toDigits (by decide) (by decide) n

/-- A number below a bound is read back as one. -/
theorem below?_decimal {n bound : Nat} (h : n < bound) :
    below? bound (decimal n).toList = some n := by
  rw [below?, number?_decimal, Option.filter_some, if_pos (decide_eq_true h)]

theorem below?_hexadecimal {n bound : Nat} (h : n < bound) :
    below? bound (hexadecimal n).toList = some n := by
  rw [below?, number?_hexadecimal, Option.filter_some, if_pos (decide_eq_true h)]

/-- A part that is a name, a character that ends it, and a value. -/
theorem named?_labelled {α : Type} (read : String → List Char → Option α) {label : String}
    (name : List Char) (mark : Char) (hlabel : label.toList = name ++ [mark])
    (hname : name.all isNameChar = true) (hmark : isNameChar mark = false) (value : String) :
    named? read (label ++ value).toList = read (String.ofList name) (mark :: value.toList) := by
  rw [String.toList_append, hlabel, List.append_assoc, List.singleton_append,
    named?_append read (List.all_eq_true.1 hname) fun c hc => by cases hc; exact hmark]

/-- **A part whose value is a number** is read as soon as the number is. -/
theorem named?_value {α : Type} {read : String → List Char → Option α} {label : String}
    (name : List Char) (mark : Char) (hlabel : label.toList = name ++ [mark])
    (hname : name.all isNameChar = true) (hmark : isNameChar mark = false)
    {number : List Char → Option Nat} (make : Nat → α)
    (hread : ∀ value, read (String.ofList name) (mark :: value) = (number value).map make)
    {value : String} {n : Nat} (hvalue : number value.toList = some n) :
    named? read (label ++ value).toList = some (make n) := by
  rw [named?_labelled read name mark hlabel hname hmark, hread, hvalue]
  rfl

end FlowText

/-! ## §5. What the pipeline writes. -/

/-- The bit that tells multicast addresses from others: the lowest one of the first byte. -/
def groupBit : Nat := 40

/-- The mask with this bit alone. -/
def groupMask : Nat := Numeral.twoToThe groupBit

/-- What a criterion asks of the fields of a packet. -/
def Criterion.fields : Criterion → List MatchField
  | always => []
  | inPort n => [.inPort n]
  | unicastTarget => [.target 0 groupMask]
  | multicastTarget => [.target groupMask groupMask]
  | tunnelKey vni => [.tunnelKey vni.toNat]
  | vlanTag vlan => [.vlanTag vlan.toNat]

/-- What an action is for the switch. -/
def FlowAction.meaning : FlowAction → SwitchAction
  | drop => .drop
  | resubmit table => .resubmit table.number.toNat
  | learnWayBack => .learn
  | setVlan vlan => .setVlan vlan.toNat
  | stripVlan => .stripVlan
  | setTunnel vni => .setTunnel vni.toNat
  | output n => .output n

/-- What a rule is for the switch. -/
def PipelineRule.meaning (rule : PipelineRule) : SwitchRule where
  table := rule.table.number.toNat
  priority := rule.priority.toNat
  fields := rule.criterion.fields
  actions := rule.actions.map FlowAction.meaning

/-- The number in a criterion fits the field. -/
def Criterion.Fits : Criterion → Prop
  | inPort n => n < FlowText.portLimit
  | vlanTag vlan => vlan.toNat < FlowText.vlanBound
  | always | unicastTarget | multicastTarget | tunnelKey _ => True

/-- The number in an action fits the field. -/
def FlowAction.Fits : FlowAction → Prop
  | setVlan vlan => vlan.toNat < FlowText.vlanBound
  | output n => n < FlowText.portLimit
  | drop | resubmit _ | learnWayBack | stripVlan | setTunnel _ => True

instance : (criterion : Criterion) → Decidable criterion.Fits
  | .inPort n => inferInstanceAs (Decidable (n < FlowText.portLimit))
  | .vlanTag vlan => inferInstanceAs (Decidable (vlan.toNat < FlowText.vlanBound))
  | .always | .unicastTarget | .multicastTarget | .tunnelKey _ => inferInstanceAs (Decidable True)

instance : (action : FlowAction) → Decidable action.Fits
  | .setVlan vlan => inferInstanceAs (Decidable (vlan.toNat < FlowText.vlanBound))
  | .output n => inferInstanceAs (Decidable (n < FlowText.portLimit))
  | .drop | .resubmit _ | .learnWayBack | .stripVlan | .setTunnel _ =>
      inferInstanceAs (Decidable True)

/-- All numbers in a rule fit their fields, and it does something. -/
structure PipelineRule.Fits (rule : PipelineRule) : Prop where
  criterion : rule.criterion.Fits
  actions : ∀ action ∈ rule.actions, action.Fits
  some_action : rule.actions ≠ []

namespace FlowText

theorem toNat_lt_keyBound (vni : UInt32) : vni.toNat < keyBound :=
  Nat.lt_trans vni.toNat_lt (by decide)

/-- A criterion is one part, whatever its number. -/
theorem isClosed_criterion (criterion : Criterion) :
    isClosed 0 criterion.text.toList = true := by
  cases criterion with
  | always | unicastTarget | multicastTarget => decide +kernel
  | inPort n => exact isClosed_decimal (by decide) n
  | tunnelKey vni => exact isClosed_hexadecimal (by decide) vni.toNat
  | vlanTag vlan => exact isClosed_decimal (by decide) vlan.toNat

/-- **A match is read as it is meant.** -/
theorem fields?_text {criterion : Criterion} (h : criterion.Fits) :
    fields? criterion.text = some criterion.fields := by
  -- A criterion with a number is one part, read by its name.
  have hone : ∀ {field : MatchField}, criterion.text.isEmpty = false →
      named? fieldOf? criterion.text.toList = some field →
        fields? criterion.text = some [field] := by
    intro field hfull hread
    rw [fields?, hfull, if_neg Bool.false_ne_true, parts_closed (isClosed_criterion criterion),
      List.mapM_cons, hread]
    rfl
  have hfull : ∀ {label value : String}, label ≠ "" → (label ++ value).isEmpty = false := by
    intro label value hlabel
    exact Bool.eq_false_iff.2 fun hempty =>
      hlabel (String.append_eq_empty_iff.1 (String.isEmpty_iff.1 hempty)).1
  cases criterion with
  | always => rfl
  | unicastTarget | multicastTarget => decide +kernel
  | inPort n =>
      exact hone (hfull (by decide)) (named?_value "in_port".toList '=' rfl (by decide)
        (by decide) MatchField.inPort (fun _ => rfl) (below?_decimal h))
  | vlanTag vlan =>
      exact hone (hfull (by decide)) (named?_value "dl_vlan".toList '=' rfl (by decide)
        (by decide) MatchField.vlanTag (fun _ => rfl) (below?_decimal h))
  | tunnelKey vni =>
      exact hone (hfull (by decide)) (named?_value "tun_id".toList '=' rfl (by decide)
        (by decide) MatchField.tunnelKey (fun _ => rfl)
          (below?_hexadecimal (toNat_lt_keyBound vni)))

/-- An action is one part, whatever its number. -/
theorem isClosed_action (action : FlowAction) : isClosed 0 action.text.toList = true := by
  cases action with
  | drop | stripVlan | learnWayBack => decide +kernel
  | resubmit table => cases table <;> decide +kernel
  | setVlan vlan => exact isClosed_decimal (by decide) vlan.toNat
  | setTunnel vni => exact isClosed_hexadecimal (by decide) vni.toNat
  | output n => exact isClosed_decimal (by decide) n

/-- **An action is read as it is meant.** -/
theorem action?_text {action : FlowAction} (h : action.Fits) :
    named? actionOf? action.text.toList = some action.meaning := by
  cases action with
  | drop | stripVlan | learnWayBack => decide +kernel
  | resubmit table => cases table <;> decide +kernel
  | setVlan vlan =>
      exact named?_value "mod_vlan_vid".toList ':' rfl (by decide) (by decide)
        SwitchAction.setVlan (fun _ => rfl) (below?_decimal h)
  | setTunnel vni =>
      exact named?_value "set_tunnel".toList ':' rfl (by decide) (by decide)
        SwitchAction.setTunnel (fun _ => rfl) (below?_hexadecimal (toNat_lt_keyBound vni))
  | output n =>
      exact named?_value "output".toList ':' rfl (by decide) (by decide)
        SwitchAction.output (fun _ => rfl) (below?_decimal h)

/-- Where each is read, all are. -/
theorem mapM_read {α β γ : Type} {read : β → Option γ} {write : α → β} {meaning : α → γ}
    {items : List α} (h : ∀ item ∈ items, read (write item) = some (meaning item)) :
    (items.map write).mapM read = some (items.map meaning) := by
  induction items with
  | nil => rfl
  | cons item rest ih =>
      rw [List.map_cons, List.mapM_cons, h item List.mem_cons_self,
        ih fun other hother => h other (List.mem_cons_of_mem item hother)]
      rfl

/-- **Actions are read as they are meant.** -/
theorem actions?_text {actions : List FlowAction} (hne : actions ≠ [])
    (h : ∀ action ∈ actions, action.Fits) :
    actions? (",".intercalate (actions.map FlowAction.text))
      = some (actions.map FlowAction.meaning) := by
  have htexts : (actions.map FlowAction.text).map String.toList
      = actions.map fun action => action.text.toList := List.map_map
  rw [actions?, String.toList_intercalate, htexts, show ",".toList = [','] from rfl,
    parts_intercalate (by simpa using hne)
      (List.forall_mem_map.2 fun action _ => isClosed_action action)]
  exact mapM_read fun action haction => action?_text (h action haction)

/-- **A rule is read as it is meant.** -/
theorem rule?_toFlow {rule : PipelineRule} (h : rule.Fits) :
    rule? rule.toFlow = some rule.meaning := by
  rw [rule?, PipelineRule.toFlow, fields?_text h.criterion, actions?_text h.some_action h.actions]
  rfl

end FlowText

end VxlanMesh
