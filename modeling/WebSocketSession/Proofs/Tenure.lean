import WebSocketSession.Proofs.Callback

/-!
# The tenure of a buffer

At most one buffer is on loan to a session. Its tenure goes from the pool to the message in flight
and back, and through the delivery of that message if it is complete; `Tenure.after` says which
occurrence moves it on, and which must not happen meanwhile. Counts of a trace that follows a
tenure depend on where the tenure starts and ends only (`counts_of_follow`).
-/

set_option autoImplicit false
set_option relaxedAutoImplicit false

namespace WebSocketSession

variable {ν : Type}

/-- What an occurrence is to a buffer: a step of its tenure, a delivery of what it holds, a closing
step of the session, the application's own doing, or nothing in particular. -/
inductive Stir where
  | acquire
  | lend
  | deliver
  | release
  | restore
  | close
  | own
  | other
  deriving DecidableEq

def Occurrence.stir : Occurrence ν → Stir
  | .acquired _ => .acquire
  | .counted .bufferLent => .lend
  | .called (.text _) | .called (.binary _) => .deliver
  | .released _ => .release
  | .counted .bufferReturned => .restore
  | .closed .session _ _ | .called (.error _) => .close
  | .noted _ | .sent _ | .closed .application _ _ => .own
  | _ => .other

theorem Occurrence.stir_of_byApplication (x : Occurrence ν) (own : x.byApplication = true) :
    x.stir = .own := by
  cases x with
  | closed origin _ _ => cases origin <;> simp_all [byApplication, stir]
  | _ => simp_all [byApplication, stir]

private theorem Occurrence.byApplication_of_stir (x : Occurrence ν) (own : x.stir = .own) :
    x.byApplication = true := by
  cases x with
  | closed origin _ _ => cases origin <;> simp_all [byApplication, stir]
  | counted metric => cases metric <;> simp_all [stir]
  | called event => cases event <;> simp_all [stir]
  | _ => simp_all [byApplication, stir]

/-- Where the buffer is: with the pool, on its way out, with the message in flight, with the message
that is being delivered, or on its way back. -/
inductive Tenure where
  | free
  | lending
  | lent
  | delivering
  | returning
  deriving DecidableEq

namespace Tenure

def after : Tenure → Stir → Option Tenure
  | .free, .acquire => some .lending
  | .lending, .lend => some .lent
  | .lent, .deliver => some .delivering
  | .lent, .release | .delivering, .release => some .returning
  | .returning, .restore => some .free
  | .free, .close | .free, .own | .free, .other => some .free
  | .lent, .own | .lent, .other => some .lent
  | .delivering, .own => some .delivering
  | _, _ => none

/-- How many buffers the pool has given out and not got back. -/
def outstanding : Tenure → Int
  | .free | .returning => 0
  | .lending | .lent | .delivering => 1

def gauge : Tenure → Int
  | .free | .lending => 0
  | .lent | .delivering | .returning => 1

def follow (tenure : Tenure) (trace : List (Occurrence ν)) : Option Tenure :=
  trace.foldlM (fun tenure x => tenure.after x.stir) tenure

@[simp] theorem follow_nil (tenure : Tenure) :
    tenure.follow ([] : List (Occurrence ν)) = some tenure := rfl

@[simp] theorem follow_cons (tenure : Tenure) (x : Occurrence ν) (rest : List (Occurrence ν)) :
    tenure.follow (x :: rest) = (tenure.after x.stir).bind fun next => next.follow rest := rfl

private theorem follow_cons_eq_some {tenure last : Tenure} {x : Occurrence ν}
    {rest : List (Occurrence ν)} :
    tenure.follow (x :: rest) = some last ↔
      ∃ next, tenure.after x.stir = some next ∧ next.follow rest = some last :=
  Option.bind_eq_some_iff

theorem follow_append (tenure : Tenure) (first second : List (Occurrence ν)) :
    tenure.follow (first ++ second) =
      (tenure.follow first).bind fun next => next.follow second :=
  List.foldlM_append ..

end Tenure

def acquisitions (trace : List (Occurrence ν)) : Nat := trace.countP fun x => x.stir = .acquire

def releases (trace : List (Occurrence ν)) : Nat := trace.countP fun x => x.stir = .release

def gauge (trace : List (Occurrence ν)) : Int :=
  (trace.countP fun x => x.stir = .lend : Nat) - (trace.countP fun x => x.stir = .restore : Nat)

/-- Buffers taken from the pool and not returned. -/
def outstanding (trace : List (Occurrence ν)) : Int := acquisitions trace - releases trace

@[simp] theorem acquisitions_append (first second : List (Occurrence ν)) :
    acquisitions (first ++ second) = acquisitions first + acquisitions second :=
  List.countP_append ..

@[simp] theorem releases_append (first second : List (Occurrence ν)) :
    releases (first ++ second) = releases first + releases second :=
  List.countP_append ..

theorem outstanding_append (first second : List (Occurrence ν)) :
    outstanding (first ++ second) = outstanding first + outstanding second := by
  simp only [outstanding, acquisitions_append, releases_append]
  omega

theorem gauge_append (first second : List (Occurrence ν)) :
    gauge (first ++ second) = gauge first + gauge second := by
  simp only [gauge, List.countP_append]
  omega

namespace Tenure

private theorem counts_of_after {tenure next : Tenure} {x : Occurrence ν}
    (moves : tenure.after x.stir = some next) :
    WebSocketSession.outstanding [x] = next.outstanding - tenure.outstanding ∧
      WebSocketSession.gauge [x] = next.gauge - tenure.gauge := by
  simp only [WebSocketSession.outstanding, WebSocketSession.gauge, acquisitions, releases,
    List.countP_singleton]
  generalize x.stir = stir at moves ⊢
  cases tenure <;> cases stir <;> cases moves <;> decide

/-- The counts of a trace that follows a tenure are the difference of its ends. -/
theorem counts_of_follow {tenure last : Tenure} {trace : List (Occurrence ν)}
    (follows : tenure.follow trace = some last) :
    WebSocketSession.outstanding trace = last.outstanding - tenure.outstanding ∧
      WebSocketSession.gauge trace = last.gauge - tenure.gauge := by
  induction trace generalizing tenure with
  | nil =>
    cases follows
    simp [WebSocketSession.outstanding, WebSocketSession.gauge, acquisitions, releases]
  | cons x rest ih =>
    obtain ⟨next, moves, follows⟩ := follow_cons_eq_some.mp follows
    obtain ⟨first, shows⟩ := counts_of_after moves
    obtain ⟨others, otherwise⟩ := ih follows
    rw [← List.singleton_append, outstanding_append, gauge_append, first, shows, others, otherwise]
    omega

/-- Every occurrence of a trace that follows a tenure happens at a point of the tenure. -/
theorem split_follow {tenure last : Tenure} {before after : List (Occurrence ν)}
    {x : Occurrence ν} (follows : tenure.follow (before ++ x :: after) = some last) :
    ∃ at' next, tenure.follow before = some at' ∧ at'.after x.stir = some next ∧
      next.follow after = some last := by
  rw [follow_append] at follows
  obtain ⟨at', reaches, onwards⟩ := Option.bind_eq_some_iff.mp follows
  obtain ⟨next, moves, rest⟩ := follow_cons_eq_some.mp onwards
  exact ⟨at', next, reaches, moves, rest⟩

/-- A delivery that is over has been the application's own doing up to the release. -/
theorem own_until_release {last : Tenure} {trace : List (Occurrence ν)}
    (follows : Tenure.delivering.follow trace = some last) (ended : last ≠ .delivering) :
    ∃ own length rest, trace = own ++ .released length :: rest ∧
      ∀ x ∈ own, x.byApplication = true := by
  induction trace with
  | nil =>
    cases follows
    exact absurd rfl ended
  | cons x rest ih =>
    obtain ⟨next, moves, follows⟩ := follow_cons_eq_some.mp follows
    cases stir : x.stir with
    | own =>
      rw [stir] at moves
      cases moves
      obtain ⟨own, length, later, rfl, all⟩ := ih follows
      refine ⟨x :: own, length, later, rfl, fun y member => ?_⟩
      rcases List.mem_cons.mp member with rfl | member
      · exact y.byApplication_of_stir stir
      · exact all y member
    | release =>
      cases x with
      | released length => exact ⟨[], length, rest, rfl, nofun⟩
      | closed origin _ _ => cases origin <;> cases stir
      | counted metric => cases metric <;> cases stir
      | called event => cases event <;> cases stir
      | _ => cases stir
    | _ =>
      rw [stir] at moves
      cases moves

theorem follow_still {tenure : Tenure} {trace : List (Occurrence ν)}
    (still : ∀ x ∈ trace, tenure.after x.stir = some tenure) :
    tenure.follow trace = some tenure := by
  induction trace with
  | nil => rfl
  | cons x rest ih =>
    rw [follow_cons, still x List.mem_cons_self]
    exact ih fun y member => still y (List.mem_cons_of_mem _ member)

theorem gauge_eq_outstanding {tenure last : Tenure} {trace : List (Occurrence ν)}
    (follows : tenure.follow trace = some last) (rests : last.gauge = last.outstanding)
    (unlent : trace.head? ≠ some (.counted .bufferLent))
    (unreturned : trace.head? ≠ some (.counted .bufferReturned)) :
    tenure.gauge = tenure.outstanding := by
  cases trace with
  | nil =>
    cases follows
    exact rests
  | cons x rest =>
    obtain ⟨next, moves, -⟩ := follow_cons_eq_some.mp follows
    have stirs : x.stir ≠ .lend ∧ x.stir ≠ .restore := by
      cases x with
      | counted metric => cases metric <;> simp_all [Occurrence.stir]
      | closed origin _ _ => cases origin <;> exact ⟨nofun, nofun⟩
      | called event => cases event <;> exact ⟨nofun, nofun⟩
      | _ => exact ⟨nofun, nofun⟩
    cases tenure <;> cases stir : x.stir <;> simp_all [after, gauge, outstanding]

end Tenure

end WebSocketSession
