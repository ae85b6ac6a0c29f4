import Docstore.Query.Predicate

/-!
# Rewording

The data of a query are the texts that it compares with. A rewording changes them and leaves alone what is
no data: keys, typed values, patterns and searches.
-/

namespace Docstore.Query

/-- A change of texts that neither empties a text nor fills an empty one. -/
structure Rewording where
  apply : String → String
  apply_eq_empty : ∀ x, apply x = "" ↔ x = ""

/-- Operators that compare with one value. -/
def comparing : List String := ["$eq", "$ne", "$gt", "$gte", "$lt", "$lte"]

/-- Operators that compare with the members of a list. -/
def listing : List String := ["$in", "$nin", "$all", "$containedBy"]

namespace Rewording

def same : Rewording := ⟨id, fun _ => .rfl⟩

variable (s : Rewording)

def text : Json → Json
  | .string x => .string (s.apply x)
  | v => v

def member : Json → Json
  | .array items => .array (items.map s.text)
  | v => s.text v

def list : Json → Json
  | .array items => .array (items.map s.member)
  | v => v

def operand (op : String) (v : Json) : Json :=
  if op ∈ comparing then s.text v else if op ∈ listing then s.list v else v

def operands (ops : Document) : Document := ops.map fun (op, v) => (op, s.operand op v)

def value (v : Json) : Json :=
  match v with
  | .object ops => if v.typeTag?.isSome then v else .object (s.operands ops)
  | _ => s.text v

mutual

def query : List (String × Json) → List (String × Json)
  | [] => []
  | (key, v) :: rest => (key, entry key v) :: query rest

def entry (key : String) : Json → Json
  | .array items => if isLogical key then .array (members items) else .array items
  | v => if isLogical key then v else s.value v

def members : List Json → List Json
  | [] => []
  | .object fields :: rest => .object (query fields) :: members rest
  | v :: rest => v :: members rest

end

end Rewording

/-! ## Values that are bound -/

/-- A place of a value that is bound, with the data that goes there. -/
inductive Slot
  | fixed (v : Value)
  | text (x : String)
  /-- A document of a list of texts among other values. -/
  | texts (items : List Json)
  /-- A document of a list of members. -/
  | members (items : List Json)

namespace Slot

def fill (s : Rewording) : Slot → Value
  | fixed v => v
  | text x => .string (s.apply x)
  | texts items => .json (.array (items.map s.text))
  | members items => .json (.array (items.map s.member))

def ofUntyped : Json → Slot
  | .string x => text x
  | v => fixed (Encoding.untyped v)

end Slot

namespace Rewording

variable (s : Rewording)

@[simp] theorem isNull_text (v : Json) : (s.text v).isNull = v.isNull := by
  cases v <;> rfl

theorem untyped_text (v : Json) : Encoding.untyped (s.text v) = (Slot.ofUntyped v).fill s := by
  cases v <;> rfl

theorem flatten_map_member (list : List Json) :
    Operator.flatten (list.map s.member) = (Operator.flatten list).map s.text := by
  induction list with
  | nil => rfl
  | cons v rest ih =>
      rw [Operator.flatten, Operator.flatten] at *
      rw [List.map_cons, List.flatMap_cons, List.flatMap_cons, List.map_append, ih]
      cases v <;> rfl

/-! ## What is looked up -/

theorem get?_operands (op : String) (ops : Document) :
    Fields.get? op (s.operands ops) = (Fields.get? op ops).map (s.operand op) := by
  induction ops with
  | nil => rfl
  | cons e rest ih =>
      obtain ⟨k, v⟩ := e
      rw [operands, List.map_cons, Fields.get?, Fields.get?]
      split
      · rename_i hk
        rw [hk]
        rfl
      · exact ih

variable {op : String} (ops : Document)

theorem get?_comparing (h : op ∈ comparing) :
    Fields.get? op (s.operands ops) = (Fields.get? op ops).map s.text := by
  have hop : s.operand op = s.text := funext fun v => if_pos h
  rw [get?_operands, hop]

theorem get?_listing (h : op ∈ listing) (h' : op ∉ comparing) :
    Fields.get? op (s.operands ops) = (Fields.get? op ops).map s.list := by
  have hop : s.operand op = s.list := by
    funext v
    rw [operand, if_neg h', if_pos h]
  rw [get?_operands, hop]

theorem get?_other (h : op ∉ comparing ++ listing) :
    Fields.get? op (s.operands ops) = Fields.get? op ops := by
  rw [List.mem_append, not_or] at h
  have hop : s.operand op = id := by
    funext v
    rw [operand, if_neg h.1, if_neg h.2, id]
  rw [get?_operands, hop, Option.map_id_fun, id]

theorem typeTag?_operands :
    (Json.object (s.operands ops)).typeTag? = (Json.object ops).typeTag? := by
  rw [Json.typeTag?, Json.get?, s.get?_other ops (by decide), Json.typeTag?, Json.get?]

theorem get?_member (key : String) (v : Json) : (s.member v).get? key = v.get? key := by
  cases v <;> rfl

theorem get?_entry (h : op ∉ comparing ++ listing) (key : String) (v : Json) :
    (s.entry key v).get? op = v.get? op := by
  cases hl : isLogical key with
  | true => cases v <;> simp [entry, hl, Json.get?]
  | false =>
      cases v with
      | object ops =>
          simp only [entry, hl, Bool.false_eq_true, if_false, value]
          split
          · rfl
          · exact s.get?_other ops h
      | _ => simp [entry, hl, value, text, Json.get?]

theorem entry_of_not_logical {key : String} (h : isLogical key = false) (v : Json) :
    s.entry key v = s.value v := by
  cases v <;> simp [entry, h, value, text]

/-! ## What does not depend on data -/

theorem isSkipped_entry (schema : Schema) (key : String) (v : Json) :
    isSkipped schema key (s.entry key v) = isSkipped schema key v := by
  rw [isSkipped, wantsAbsence, s.get?_entry (by decide), ← wantsAbsence, ← isSkipped]

mutual

theorem validateQuery_query (q : List (String × Json)) :
    validateQuery (s.query q) = validateQuery q := by
  match q with
  | [] => rfl
  | (key, v) :: rest =>
      rw [query, validateQuery, validateQuery, validateEntry_entry key v, validateQuery_query rest]

theorem validateEntry_entry (key : String) (v : Json) :
    validateEntry key (s.entry key v) = validateEntry key v := by
  match v with
  | .array items =>
      cases hl : isLogical key with
      | true => simp only [entry, validateEntry, hl, if_true, validateMembers_members key items]
      | false => simp only [entry, hl, Bool.false_eq_true, if_false]
  | .object ops =>
      cases hl : isLogical key with
      | true => simp only [entry, hl, if_true]
      | false =>
          simp only [entry, hl, Bool.false_eq_true, if_false, value]
          split <;> simp only [validateEntry, hl]
  | .null | .bool _ | .number _ | .string _ =>
      cases hl : isLogical key <;> simp [entry, hl, value, text, validateEntry]

theorem validateMembers_members (key : String) (items : List Json) :
    validateMembers key (s.members items) = validateMembers key items := by
  match items with
  | [] => rfl
  | .object fields :: rest =>
      rw [members, validateMembers, validateMembers, validateQuery_query fields,
        validateMembers_members key rest]
  | .null :: _ | .bool _ :: _ | .number _ :: _ | .string _ :: _ | .array _ :: _ => rfl

end

/-! ## No rewording -/

theorem text_same (v : Json) : same.text v = v := by
  cases v <;> rfl

theorem member_same (v : Json) : same.member v = v := by
  cases v with
  | array items =>
      rw [member, List.map_congr_left fun w _ => text_same w]
      exact congrArg Json.array (List.map_id' items)
  | _ => rfl

theorem list_same (v : Json) : same.list v = v := by
  cases v with
  | array items =>
      rw [list, List.map_congr_left fun w _ => member_same w]
      exact congrArg Json.array (List.map_id' items)
  | _ => rfl

theorem operands_same (ops : Document) : same.operands ops = ops := by
  have hop : ∀ e ∈ ops, (e.1, same.operand e.1 e.2) = e := by
    intro e _
    unfold operand
    split
    · rw [text_same]
    split
    · rw [list_same]
    · rfl
  rw [operands, List.map_congr_left hop]
  exact List.map_id' ops

theorem value_same (v : Json) : same.value v = v := by
  cases v with
  | object ops =>
      rw [value, operands_same]
      split <;> rfl
  | _ => rfl

mutual

theorem query_same (q : List (String × Json)) : same.query q = q := by
  match q with
  | [] => rfl
  | (key, v) :: rest => rw [query, entry_same key v, query_same rest]

theorem entry_same (key : String) (v : Json) : same.entry key v = v := by
  cases hl : isLogical key with
  | false => rw [entry_of_not_logical _ hl, value_same]
  | true =>
      match v with
      | .array items => simp only [entry, hl, if_true, members_same items]
      | .null | .bool _ | .number _ | .string _ | .object _ => simp only [entry, hl, if_true]

theorem members_same (items : List Json) : same.members items = items := by
  match items with
  | [] => rfl
  | .object fields :: rest => rw [members, query_same fields, members_same rest]
  | .null :: rest | .bool _ :: rest | .number _ :: rest | .string _ :: rest | .array _ :: rest =>
      rw [members, members_same rest]
      simp

end

end Rewording

end Docstore.Query
