import FeeWatch.Proofs.History.Recall

/-! Points that do not fit.

A whole number beyond 64 bits stops a call that appends points to a database, and the call
is refused. The points before the misfit are rows by then, and stay in the open transaction:
they are visible at once, the next call that commits makes them lasting, and only opening
the database again before that takes them away (`refused_calls_leave_points`). So a history
is not made of the calls that were accepted (`refused_call_is_committed`). -/
namespace FeeWatch.History

open FeeWatch.Fee (Point)

/-- **What a database recalls after calls of which some were refused.** A call is refused when one
of its points does not fit. The database recalls the points of each call up to the first that does
not fit, whether the call was refused or not, but for those that were in the open transaction when
the database was opened again. -/
theorem refused_calls_leave_points (calls : List Call) (place : Place)
    (hplace : place = .memory → Call.reopen ∉ calls) :
    ((Store.database place true .empty).answers calls =
        calls.map fun c => if c.fits then .ok () else .error .tooLarge) ∧
      ((Store.database place true .empty).after calls).Recalls (lasting calls)
        (calls.flatMap Call.newSnapshots) :=
  ⟨Store.answers_database place .empty calls, Store.recalls_lasting hplace⟩

def small : Point := ⟨1, .earliest, "a", 1⟩

/-- A point with a fee beyond 64 bits. -/
def great : Point := ⟨2 ^ 63, .earliest, "b", 2⟩

theorem refused_calls_leave_points_lost :
    (Place.file "history.db" = .memory →
        Call.reopen ∉ [.points [small, great], .reopen, .points [small]]) ∧
      (Store.database (.file "history.db") true .empty).answers
          [.points [small, great], .reopen, .points [small]] =
        [.error .tooLarge, .ok (), .ok ()] ∧
      ((Store.database (.file "history.db") true .empty).after
          [.points [small, great], .reopen, .points [small]]).Recalls [small] [] := by
  have hplace : Place.file "history.db" = .memory →
      Call.reopen ∉ [.points [small, great], .reopen, .points [small]] := nofun
  exact ⟨hplace, refused_calls_leave_points _ _ hplace⟩

/-- A call that was refused left a point. The next call made it lasting. -/
theorem refused_call_is_committed :
    (Store.database (.file "history.db") true .empty).answers
        [.points [small, great], .points [small]] = [.error .tooLarge, .ok ()] ∧
      ((Store.database (.file "history.db") true .empty).after [.points [small, great]]).count =
        .ok 1 ∧
      (((Store.database (.file "history.db") true .empty).after
        [.points [small, great], .points [small], .reopen]).recent (.int (100 : Nat))).1 =
        .ok [small, small] := by
  refine ⟨rfl, rfl, ?_⟩
  have hplace : Place.file "history.db" = .memory →
      Call.reopen ∉ [.points [small, great], .points [small], .reopen] := nofun
  exact (Store.recalls_lasting hplace).recent 100 (by decide)

end FeeWatch.History
