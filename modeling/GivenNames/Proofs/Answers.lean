import GivenNames.Message

/-!
Answers can always be written.

Data is not written where a map has a key that is neither a number nor a text. The maps of answers
have years and districts for their keys, so there is a value for every answer: main statement
`Answer.toJson_eq`. The branches in which a call or a message fails for its answer are never taken
(`call_eq`, `Message.answer_of_ofValue`).
-/

namespace GivenNames

/-! ### Written data -/

namespace Json.Datum

variable {α : Type} {data : α → Datum} {value : α → Json}

theorem itemsToJson_map (each : ∀ x, (data x).toJson = .ok (value x)) (xs : List α) :
    itemsToJson (xs.map data) = .ok (xs.map value) := by
  induction xs with
  | nil => rfl
  | cons x xs ih =>
      rw [List.map_cons, itemsToJson, each, ih]
      rfl

theorem entriesToJson_map {keys : α → Datum} {word : α → String}
    (spelled : ∀ x, (keys x).key = .ok (word x)) (each : ∀ x, (data x).toJson = .ok (value x))
    (xs : List α) :
    entriesToJson (xs.map fun x => (keys x, data x)) = .ok (xs.map fun x => (word x, value x)) := by
  induction xs with
  | nil => rfl
  | cons x xs ih =>
      rw [List.map_cons, entriesToJson, spelled, each, ih]
      rfl

/-- A map with a list for a key is not written, and neither is what it is part of. -/
example :
    (record [("counts", map [(text "A", int 1), (list [text "A", text "B"], int 2)])]).toJson =
      .error .keyNotString := rfl

end Json.Datum

/-! ### Written answers -/

/-- The object that a row is written as. -/
def RankedName.value (r : RankedName) : Json :=
  .object [
    ("Name", .string r.name),
    ("Gender", r.gender.toJson),
    ("Count", .int r.count),
    ("DistrictCount", .int r.districtCount),
    ("Count_total", .int r.countTotal)]

/-- The object that a trend is written as, its years in decimal form. -/
def YearTrend.value (t : YearTrend) : Json :=
  .object [
    ("name", .string t.name),
    ("yearly_counts",
      .object (t.yearlyCounts.entries.map fun e => (Integer.text e.1.toInt, .int e.2)))]

/-- The object that a point is written as. -/
def RarityPoint.value (p : RarityPoint) : Json :=
  .object [
    ("Name", .string p.name),
    ("Gender", p.gender.toJson),
    ("Count_district", .int p.countDistrict),
    ("Count_total", .int p.countTotal)]

/-- The object that a map is written as. -/
def DistrictMap.value (m : DistrictMap) : Json :=
  .object [
    ("name", .string m.name),
    ("district_counts", .object (m.districtCounts.entries.map fun e => (e.1, .int e.2))),
    ("max_count", .int m.maxCount)]

/-- The value that an answer is written as. -/
def Answer.value : Answer → Json
  | .table rows => .array (rows.map RankedName.value)
  | .trend t => t.value
  | .scatter points => .array (points.map RarityPoint.value)
  | .map m => m.value

open Json.Datum (toJson fieldsToJson entriesToJson itemsToJson_map entriesToJson_map)

theorem RankedName.toJson_datum (r : RankedName) : r.datum.toJson = .ok r.value := rfl

theorem RarityPoint.toJson_datum (p : RarityPoint) : p.datum.toJson = .ok p.value := rfl

theorem YearTrend.toJson_datum (t : YearTrend) : t.datum.toJson = .ok t.value := by
  have counts : entriesToJson (t.yearlyCounts.entries.map fun e => (.int e.1.toInt, .int e.2)) =
      .ok (t.yearlyCounts.entries.map fun e => (Integer.text e.1.toInt, .int e.2)) :=
    entriesToJson_map (fun _ => rfl) (fun _ => rfl) _
  simp only [datum, toJson, fieldsToJson, counts]
  rfl

theorem DistrictMap.toJson_datum (m : DistrictMap) : m.datum.toJson = .ok m.value := by
  have counts : entriesToJson (m.districtCounts.entries.map fun e => (.text e.1, .int e.2)) =
      .ok (m.districtCounts.entries.map fun e => (e.1, .int e.2)) :=
    entriesToJson_map (fun _ => rfl) (fun _ => rfl) _
  simp only [datum, toJson, fieldsToJson, counts]
  rfl

/-- Every answer is written, as its value. -/
theorem Answer.toJson_eq (a : Answer) : a.toJson = .ok a.value := by
  cases a with
  | table rows =>
      exact congrArg (Except.map Json.array) (itemsToJson_map RankedName.toJson_datum rows)
  | trend t => exact t.toJson_datum
  | scatter points =>
      exact congrArg (Except.map Json.array) (itemsToJson_map RarityPoint.toJson_datum points)
  | map m => exact m.toJson_datum

/-! ### Calls and messages -/

/-- A call that is taken is answered, and the answer is written. -/
theorem call_eq (registry : Registry) (name text : String) :
    call registry name text =
      (Request.ofText name text).map fun request => (request.answer registry).value.text := by
  unfold call callWithEvents
  cases Request.ofText name text with
  | error e => rfl
  | ok request =>
      simp only [Answer.toJson_eq]
      rfl

/-- A message whose call is taken is answered with the value of the answer. -/
theorem Message.answer_of_ofValue {registry : Registry} {m : Message} {request : Request}
    (taken : Request.ofValue m.function m.args = .ok request) :
    m.answer registry =
      (⟨m.id, .ok (request.answer registry).value.sorted⟩,
        .received m.id m.function m.args :: .runs m.id request.function.name ::
          (request.run registry).2) := by
  simp only [answer, taken, Answer.toJson_eq]
  rfl

/-- No message is refused because its answer cannot be written. -/
theorem Message.outcome_ne_unwritable (registry : Registry) (m : Message) (cause : Json.Cause) :
    (m.response registry).outcome ≠ .error (.unwritable cause) := by
  unfold response
  cases taken : Request.ofValue m.function m.args with
  | error e => simp [answer, taken]
  | ok request => simp [answer_of_ofValue taken]

end GivenNames
