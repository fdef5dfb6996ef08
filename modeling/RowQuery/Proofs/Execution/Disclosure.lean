import RowQuery.Connection.Memory
import RowQuery.Proofs.Execution.Answers

/-!
What is told about bound values. The text of a statement does not depend on them, and neither does
anything that is prepared or reported, unless the options ask for the bound values to be shown: then
the report shows just these.
-/

namespace RowQuery

namespace Condition

mutual

/-- The condition with null in place of every bound value. -/
def withoutValues : Condition → Condition
  | .value column comparison _ => .value column comparison .null
  | .columns left comparison right => .columns left comparison right
  | .group connective members => .group connective (withoutValuesEach members)

/-- Several conditions with null in place of every bound value. -/
def withoutValuesEach : List Condition → List Condition
  | [] => []
  | member :: rest => member.withoutValues :: withoutValuesEach rest

end

mutual

/-- A condition reads the same without its values. -/
theorem render_withoutValues (qualified : Bool) (condition : Condition) :
    condition.withoutValues.render qualified = condition.render qualified := by
  cases condition with
  | value column comparison bound => rfl
  | columns left comparison right => rfl
  | group connective members =>
    -- A group reads as its members do, joined by the same word.
    unfold withoutValues render
    rw [renderMembers_withoutValuesEach qualified members]

/-- The members of a group that say something still say it without their values. -/
theorem renderMembers_withoutValuesEach (qualified : Bool) (members : List Condition) :
    renderMembers qualified (withoutValuesEach members) = renderMembers qualified members := by
  cases members with
  | nil => rfl
  | cons member rest =>
    unfold withoutValuesEach renderMembers
    rw [render_withoutValues qualified member, renderMembers_withoutValuesEach qualified rest]

end

/-- A condition that stands alone reads the same without its values. -/
theorem renderAlone_withoutValues (qualified : Bool) (condition : Condition) :
    condition.withoutValues.renderAlone qualified = condition.renderAlone qualified := by
  cases condition with
  | value column comparison bound => rfl
  | columns left comparison right => rfl
  | group connective members =>
    simp only [withoutValues, renderAlone, renderMembers_withoutValuesEach]

mutual

/-- Without its values a condition binds null as often as it bound a value. -/
theorem binds_withoutValues (condition : Condition) :
    condition.withoutValues.binds = condition.binds.map fun _ => .null := by
  -- A comparison of two columns binds nothing, with its values or without.
  cases condition with
  | value column comparison bound => rfl
  | columns left comparison right => rfl
  | group connective members =>
    unfold withoutValues binds
    exact bindsOfAll_withoutValuesEach members

/-- Without their values conditions bind null as often as they bound a value. -/
theorem bindsOfAll_withoutValuesEach (members : List Condition) :
    bindsOfAll (withoutValuesEach members) = (bindsOfAll members).map fun _ => .null := by
  cases members with
  | nil => rfl
  | cons member rest =>
    unfold withoutValuesEach bindsOfAll
    rw [binds_withoutValues member, bindsOfAll_withoutValuesEach rest, List.map_append]

end

end Condition

namespace Selection

/-- The selection with null in place of every bound value. -/
def withoutValues (selection : Selection) : Selection :=
  { selection with conditions := Condition.withoutValuesEach selection.conditions }

/-- The condition on the rows of a selection loses its values with it. -/
theorem condition_withoutValues (selection : Selection) :
    selection.withoutValues.condition = selection.condition.withoutValues := rfl

/-- A selection has the same text without its values, and as many binds. -/
theorem toStatement_withoutValues (selection : Selection) :
    selection.withoutValues.toStatement =
      ⟨selection.toStatement.sql, selection.toStatement.binds.map fun _ => .null⟩ := by
  have clause : selection.withoutValues.whereClause = selection.whereClause := by
    unfold whereClause
    rw [condition_withoutValues, Condition.renderAlone_withoutValues]
    rfl
  -- Only the condition holds values, so the other parts of the text are the same to begin with.
  unfold toStatement
  rw [clause, condition_withoutValues, Condition.binds_withoutValues]
  rfl

/-- Unless bound values are to be shown, the report is the same without them. -/
theorem report_withoutValues {selection : Selection}
    (hidden : selection.options.showsBinds = false) (operation : Operation) :
    selection.withoutValues.report operation = selection.report operation := by
  have options : selection.withoutValues.options = selection.options := rfl
  -- A report without values still counts them, and null is counted like any other.
  simp [report, LogEvent.ofStatement, toStatement_withoutValues, options, hidden]

/-- Given the connection's answer, the outcome of a selection of the first row is the same without
the values. -/
theorem firstOutcome_withoutValues {selection : Selection}
    (hidden : selection.options.showsBinds = false) (answer : Except Error (List Value))
    (destinations : List Destination) :
    selection.withoutValues.firstOutcome answer destinations =
      selection.firstOutcome answer destinations := by
  -- The check looks at the columns and the options alone.
  have checked : selection.withoutValues.checkRecords destinations =
      selection.checkRecords destinations := rfl
  unfold firstOutcome
  rw [checked, report_withoutValues hidden]

/-- Given the connection's answer, the outcome of a selection of all rows is the same without the
values. -/
theorem allOutcome_withoutValues {selection : Selection}
    (hidden : selection.options.showsBinds = false) (answer : Except Error Delivery)
    (destinations : List Destination) :
    selection.withoutValues.allOutcome answer destinations =
      selection.allOutcome answer destinations := by
  -- The values enter neither the check nor, when hidden, the report.
  have checked : selection.withoutValues.sequencesFor destinations =
      selection.sequencesFor destinations := rfl
  have options : selection.withoutValues.options = selection.options := rfl
  unfold allOutcome
  rw [checked, report_withoutValues hidden, options]

end Selection

/-- The text that a request has prepared, if it is a request for that. -/
def Request.text? : Request → Option String
  | .prepare sql => some sql
  | _ => none

/-- The texts that a run prepares, in order. -/
def Run.prepared {α : Type} (run : Run α) : List String :=
  run.requests.filterMap Request.text?

/-- The bound values that a report shows, if it does. -/
def LogEvent.shownBinds? : LogEvent → Option (List Value)
  | .statement _ _ _ _ binds => binds
  | .rowsAppended _ _ _ => none

/-- The lists of bound values that the reports of a run show, in order. -/
def Run.shownBinds {α : Type} (run : Run α) : List (List Value) :=
  run.events.filterMap LogEvent.shownBinds?

/-- The text of a statement that a check lets pass. -/
def Statement.textPast {β : Type} (statement : Statement) : Except Error β → List String
  | .error _ => []
  | .ok _ => [statement.sql]

/-- A run tells about a statement, unless a check rejects it first: it prepares the text, and for
that text its reports show the bound values if the options ask for them. -/
structure Run.Tells {α β : Type} (run : Run α) (options : ExecutionOptions) (statement : Statement)
    (check : Except Error β) : Prop where
  prepared : run.prepared = statement.textPast check
  shownBinds : run.shownBinds =
    if options.showsBinds then run.prepared.map fun _ => statement.binds else []

/-- A call that is conducted as it should be prepares its text, and that once, unless it is
rejected. -/
theorem Conducts.filterMap_text? {κ α β : Type} {connection : Connection κ} {check : Except Error β}
    {statement : Statement} {run : Request}
    {Ends : PreparedStatement κ → List CursorCall → Except Error α → Prop}
    {requests : List Request} {result : Except Error α} (runs : run.text? = none)
    (conducted : Conducts connection check statement run Ends requests result) :
    requests.filterMap Request.text? = statement.textPast check := by
  cases conducted with
  | rejected failed =>
    -- No request has been made.
    rw [failed]
    rfl
  | unprepared passed asked =>
    rw [passed]
    rfl
  | @carriedOut _ _ calls _ passed asked ends =>
    -- Neither the run nor what is called on a cursor prepares anything.
    have silent : (calls.map Request.cursor).filterMap Request.text? = [] := by
      simp [List.filterMap_map, Function.comp_def, Request.text?]
    rw [passed, List.filterMap_cons, List.filterMap_cons, runs, silent]
    rfl

/-- The report about a statement shows its bound values if the options ask for them. -/
@[simp] theorem LogEvent.shownBinds?_ofStatement (options : ExecutionOptions)
    (operation : Operation) (sql : String) (binds : List Value) :
    (ofStatement options operation sql binds).shownBinds? =
      if options.showsBinds then some binds else none := rfl

/-- The report about appended rows shows no bound values. -/
@[simp] theorem LogEvent.shownBinds?_rowsAppended (level : LogLevel) (operation : Operation)
    (rows : Nat) : (rowsAppended level operation rows).shownBinds? = none := rfl

section Tells

variable {κ : Type} (connection : Connection κ)

/-- What a selection of the first row tells about its statement. -/
theorem Selection.first_tells (selection : Selection) (destinations : List Destination) :
    (selection.first connection destinations).Tells selection.options selection.toStatement
      (selection.checkRecords destinations) := by
  have prepared : (selection.first connection destinations).prepared = _ :=
    (selection.first_conducts connection destinations).filterMap_text? rfl
  refine ⟨prepared, ?_⟩
  have events : (selection.first connection destinations).events = _ :=
    congrArg Outcome.events (selection.outcome_first connection destinations)
  -- The outcome knows the only report there is: the one about the statement, behind the check.
  rw [Run.shownBinds, prepared, events, firstOutcome]
  cases selection.checkRecords destinations with
  | error error => simp [Statement.textPast]
  | ok _ =>
    cases shown : selection.options.showsBinds <;>
      simp [Statement.textPast, report, shown]

/-- What a selection of all rows tells about its statement. -/
theorem Selection.all_tells [Cursor κ] (selection : Selection) (destinations : List Destination) :
    (selection.all connection destinations).Tells selection.options selection.toStatement
      (selection.sequencesFor destinations) := by
  have prepared : (selection.all connection destinations).prepared = _ :=
    (selection.all_conducts connection destinations).filterMap_text? rfl
  refine ⟨prepared, ?_⟩
  have events : (selection.all connection destinations).events = _ :=
    congrArg Outcome.events (selection.outcome_all connection destinations)
  rw [Run.shownBinds, prepared, events]
  unfold allOutcome
  cases selection.sequencesFor destinations with
  | error error => simp [Statement.textPast]
  | ok sequences =>
    cases connection.deliveryOf selection.toStatement with
    | error error =>
      cases shown : selection.options.showsBinds <;>
        simp [Statement.textPast, report, shown]
    | ok delivery =>
      -- A report about appended rows, if there is one, shows no bound values.
      cases counted : (delivery.takeUp sequences).1 <;>
        cases shown : selection.options.showsBinds <;>
        simp [Statement.textPast, report, shown, counted]

/-- What an insertion tells about its statement. -/
theorem Insertion.execute_tells (insertion : Insertion) (row : NewRow) :
    (insertion.execute connection row).Tells insertion.options (insertion.toStatement row)
      (insertion.checkColumns row) := by
  -- How the call is conducted gives the text, and its answer the reports.
  have prepared : (insertion.execute connection row).prepared = _ :=
    (insertion.execute_conducts connection row).filterMap_text? rfl
  refine ⟨prepared, ?_⟩
  rw [Run.shownBinds, prepared, (insertion.execute_of_answer connection row).2, checkColumns]
  by_cases empty : row.columns = []
  · simp [empty, Statement.textPast]
  · cases shown : insertion.options.showsBinds <;>
      simp [empty, Statement.textPast, report, shown]

end Tells

section Hidden

variable {κ ι : Type} {connection : Connection κ} {other : Connection ι}

/-- Selections that differ in nothing but values have the same text and bind as many values. -/
theorem Selection.toStatement_of_alike {left right : Selection}
    (alike : left.withoutValues = right.withoutValues) :
    left.toStatement.sql = right.toStatement.sql ∧
      left.toStatement.binds.length = right.toStatement.binds.length := by
  have statements := congrArg toStatement alike
  -- Without values the statements are one: the same text, and null for every bound value.
  rw [toStatement_withoutValues, toStatement_withoutValues, Statement.mk.injEq] at statements
  obtain ⟨texts, binds⟩ := statements
  exact ⟨texts, by simpa using congrArg List.length binds⟩

/-- With their values hidden, selections of the first row that differ in nothing but values, and are
answered alike, prepare the same text and have the same outcome. -/
theorem Selection.first_of_alike {left right : Selection}
    (alike : left.withoutValues = right.withoutValues) (hidden : left.options.showsBinds = false)
    (answers : connection.firstRowOf left.toStatement = other.firstRowOf right.toStatement)
    (destinations : List Destination) :
    (left.first connection destinations).prepared = (right.first other destinations).prepared ∧
      (left.first connection destinations).outcome = (right.first other destinations).outcome := by
  have options := congrArg Selection.options alike
  have hidden' : right.options.showsBinds = false :=
    (congrArg ExecutionOptions.showsBinds options).symm.trans hidden
  constructor
  · -- Both pass the same check, or neither does.
    have checked : left.checkRecords destinations = right.checkRecords destinations :=
      congrArg (fun selection => selection.checkRecords destinations) alike
    rw [(left.first_tells connection destinations).prepared,
      (right.first_tells other destinations).prepared, checked]
    unfold Statement.textPast
    rw [(toStatement_of_alike alike).1]
  · -- Given the answer, each outcome is that of the selection without values, which is one.
    rw [outcome_first, outcome_first, answers, ← firstOutcome_withoutValues hidden, alike,
      firstOutcome_withoutValues hidden']

/-- With their values hidden, selections of all rows that differ in nothing but values, and are
answered alike, prepare the same text and have the same outcome. -/
theorem Selection.all_of_alike [Cursor κ] [Cursor ι] {left right : Selection}
    (alike : left.withoutValues = right.withoutValues) (hidden : left.options.showsBinds = false)
    (answers : connection.deliveryOf left.toStatement = other.deliveryOf right.toStatement)
    (destinations : List Destination) :
    (left.all connection destinations).prepared = (right.all other destinations).prepared ∧
      (left.all connection destinations).outcome = (right.all other destinations).outcome := by
  have options := congrArg Selection.options alike
  have hidden' : right.options.showsBinds = false :=
    (congrArg ExecutionOptions.showsBinds options).symm.trans hidden
  constructor
  · -- Both are accepted by the same check, or neither is.
    have checked : left.sequencesFor destinations = right.sequencesFor destinations :=
      congrArg (fun selection => selection.sequencesFor destinations) alike
    rw [(left.all_tells connection destinations).prepared,
      (right.all_tells other destinations).prepared, checked]
    unfold Statement.textPast
    rw [(toStatement_of_alike alike).1]
  · rw [outcome_all, outcome_all, answers, ← allOutcome_withoutValues hidden, alike,
      allOutcome_withoutValues hidden']

/-- With their values hidden, insertions of rows with the same columns and as many values, answered
alike, prepare the same text, report the same and have the same result. -/
theorem Insertion.execute_of_alike {insertion : Insertion} {left right : NewRow}
    (columns : left.columns = right.columns) (aligned : left.values.length = right.values.length)
    (hidden : insertion.options.showsBinds = false)
    (answers : connection.affectedBy (insertion.toStatement left) =
      other.affectedBy (insertion.toStatement right)) :
    (insertion.execute connection left).prepared = (insertion.execute other right).prepared ∧
      (insertion.execute connection left).events = (insertion.execute other right).events ∧
      (insertion.execute connection left).result = (insertion.execute other right).result := by
  have texts : (insertion.toStatement left).sql = (insertion.toStatement right).sql := by
    unfold toStatement
    rw [columns]
  have checked : insertion.checkColumns left = insertion.checkColumns right := by
    unfold checkColumns
    rw [columns]
  -- What is reported and what comes of it are functions of the row's columns and the answer.
  obtain ⟨result, events⟩ := insertion.execute_of_answer connection left
  obtain ⟨result', events'⟩ := insertion.execute_of_answer other right
  refine ⟨?_, ?_, ?_⟩
  · rw [(insertion.execute_tells connection left).prepared,
      (insertion.execute_tells other right).prepared, checked]
    unfold Statement.textPast
    rw [texts]
  · -- The report counts the values and does not show them.
    have counted : (insertion.toStatement left).binds.length =
        (insertion.toStatement right).binds.length := aligned
    have reports : insertion.report left = insertion.report right := by
      unfold report LogEvent.ofStatement
      simp only [texts, hidden, counted, Bool.false_eq_true, if_false]
    rw [events, events', columns, reports]
  · rw [result, result', checked, answers]

end Hidden

/-- Bound values stay out of the texts of statements, and out of reports unless they are asked for.
Selections that differ in nothing but bound values, and insertions of rows with the same columns and
as many values, have the same text and bind as many values. With the values hidden, and answered
alike, they prepare the same text, report the same and end the same. In any case a run shows bound
values only if the options ask for it, and then once for the text that it prepares, and just the
values of the statement. -/
theorem values_stay_hidden {left right : Selection}
    (alike : left.withoutValues = right.withoutValues) {row row' : NewRow}
    (columns : row.columns = row'.columns) (aligned : row.values.length = row'.values.length)
    (insertion : Insertion) :
    (left.toStatement.sql = right.toStatement.sql ∧
        left.toStatement.binds.length = right.toStatement.binds.length) ∧
      ((insertion.toStatement row).sql = (insertion.toStatement row').sql ∧
        (insertion.toStatement row).binds.length = (insertion.toStatement row').binds.length) ∧
      ∀ {κ ι : Type} [Cursor κ] [Cursor ι] (connection : Connection κ) (other : Connection ι)
        (destinations : List Destination),
        (left.options.showsBinds = false →
          (connection.firstRowOf left.toStatement = other.firstRowOf right.toStatement →
            let run := left.first connection destinations
            let run' := right.first other destinations
            run.prepared = run'.prepared ∧ run.outcome = run'.outcome) ∧
          (connection.deliveryOf left.toStatement = other.deliveryOf right.toStatement →
            let run := left.all connection destinations
            let run' := right.all other destinations
            run.prepared = run'.prepared ∧ run.outcome = run'.outcome)) ∧
        (insertion.options.showsBinds = false →
          connection.affectedBy (insertion.toStatement row) =
            other.affectedBy (insertion.toStatement row') →
          let run := insertion.execute connection row
          let run' := insertion.execute other row'
          run.prepared = run'.prepared ∧ run.events = run'.events ∧ run.result = run'.result) ∧
        (left.first connection destinations).Tells left.options left.toStatement
          (left.checkRecords destinations) ∧
        (left.all connection destinations).Tells left.options left.toStatement
          (left.sequencesFor destinations) ∧
        (insertion.execute connection row).Tells insertion.options (insertion.toStatement row)
          (insertion.checkColumns row) := by
  -- The text of an insertion names its columns and counts its values.
  have texts : (insertion.toStatement row).sql = (insertion.toStatement row').sql := by
    unfold Insertion.toStatement
    rw [columns]
  refine ⟨Selection.toStatement_of_alike alike, ⟨texts, aligned⟩, ?_⟩
  intro κ ι _ _ connection other destinations
  refine ⟨?_, ?_, ?_, ?_, ?_⟩
  · intro hidden
    exact ⟨fun answers => Selection.first_of_alike alike hidden answers destinations,
      fun answers => Selection.all_of_alike alike hidden answers destinations⟩
  · intro hidden answers
    exact Insertion.execute_of_alike columns aligned hidden answers
  · exact left.first_tells connection destinations
  · exact left.all_tells connection destinations
  · exact insertion.execute_tells connection row

/-- Two logins of different users with different passwords are told about alike, and so are two
users who sign up. -/
theorem values_stay_hidden_of_logins :
    let login (name password : String) : Selection :=
      ⟨[⟨"users", "id"⟩], [.value ⟨"users", "name"⟩ .equal (.text name),
        .any [.value ⟨"users", "password"⟩ .equal (.text password),
          .columns ⟨"users", "password"⟩ .equal ⟨"users", "name"⟩]], [], {}⟩
    let signUp (name password : String) : NewRow :=
      ⟨["name", "password"], [.text name, .text password]⟩
    let users : Insertion := ⟨"users", {}⟩
    let connection := ({ rows := [[.int 1], [.int 2]] } : Memory).connection
    let destinations : List Destination := [.sequence (.ofType .int64) []]
    let run := (login "ann" "secret").all connection destinations
    let run' := (login "bob" "hidden").all connection destinations
    (run.prepared = run'.prepared ∧ run.outcome = run'.outcome) ∧
      (users.execute connection (signUp "ann" "secret")).events =
        (users.execute connection (signUp "bob" "hidden")).events := by
  intro login signUp users connection destinations run run'
  -- The passwords are bound values, so that without values nothing tells them apart.
  have alike : (login "ann" "secret").withoutValues = (login "bob" "hidden").withoutValues := rfl
  have columns : (signUp "ann" "secret").columns = (signUp "bob" "hidden").columns := rfl
  have aligned : (signUp "ann" "secret").values.length =
      (signUp "bob" "hidden").values.length := rfl
  obtain ⟨_, _, told⟩ := values_stay_hidden alike columns aligned users
  obtain ⟨selected, inserted, _⟩ := told connection connection destinations
  exact ⟨(selected rfl).2 rfl, (inserted rfl rfl).2.1⟩

end RowQuery
