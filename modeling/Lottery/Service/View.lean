/-
# Views

A view answers the requests of one method for one path, or for one path for each
grouping:

| view | method | path |
| --- | --- | --- |
| `health` | GET | `/health` |
| `playTypes` | GET | `/api/play-types` |
| `parseResult` | POST | `/api/results/parse` |
| `parseBets` | POST | `/api/bets/parse` |
| `evaluateBet` | POST | `/api/bets/evaluate` |
| `stats` | POST | `/api/stats/` and a grouping |
| `checkLimits` | POST | `/api/limits/check` |

A grouping is one part of a path, so no slash stands in it.  Whether there is such
a grouping is for the view to say.  `View.ofPath?` finds the view of a path, and
finds each view by its own (`ofPath?_path`).
-/

import Lottery.Text.Blank

namespace Lottery
namespace Service

/-- What answers a request. -/
inductive View where
  | health
  | playTypes
  | parseResult
  | parseBets
  | evaluateBet
  | stats (grouping : String)
  | checkLimits
  deriving DecidableEq

namespace View

/-- The method of the requests that a view answers. -/
def method : View → String
  | .health | .playTypes => "GET"
  | .parseResult | .parseBets | .evaluateBet | .stats _ | .checkLimits => "POST"

/-- What the paths of the statistics have in common. -/
def statsPath : List Char :=
  "/api/stats/".toList

/-- The path of the requests that a view answers. -/
def path : View → String
  | .health => "/health"
  | .playTypes => "/api/play-types"
  | .parseResult => "/api/results/parse"
  | .parseBets => "/api/bets/parse"
  | .evaluateBet => "/api/bets/evaluate"
  | .stats grouping => String.ofList (statsPath ++ grouping.toList)
  | .checkLimits => "/api/limits/check"

/-- Can the view be named by a path?  The word for a grouping is then one part of it. -/
def IsNamed : View → Prop
  | .stats grouping => grouping ≠ "" ∧ '/' ∉ grouping.toList
  | _ => True

/-- The views of one path each. -/
def single : List View :=
  [.health, .playTypes, .parseResult, .parseBets, .evaluateBet, .checkLimits]

/-- The view of a path. -/
def ofPath? (path : String) : Option View :=
  match single.find? fun v => v.path == path with
  | some v => some v
  | none =>
    let word := path.toList.drop statsPath.length
    if statsPath.isPrefixOf path.toList && !word.isEmpty && !word.contains '/' then
      some (.stats (String.ofList word))
    else none

/-- No view of one path has the path of the statistics of some grouping. -/
theorem find?_path_stats (word : String) :
    (single.find? fun v => v.path == (stats word).path) = none := by
  rw [List.find?_eq_none]
  intro v hv heq
  -- The paths differ in their first characters already.
  have hstart : v.path.toList.take statsPath.length = statsPath := by
    rw [beq_iff_eq.1 heq, path, String.toList_ofList, List.take_left]
  have hnone : ∀ u ∈ single, u.path.toList.take statsPath.length ≠ statsPath := by decide
  exact hnone v hv hstart

/-- **Each view is found by its path.** -/
theorem ofPath?_path {v : View} (h : v.IsNamed) : ofPath? v.path = some v := by
  cases v with
  | stats word =>
    obtain ⟨hne, hslash⟩ := h
    unfold ofPath?
    rw [find?_path_stats]
    have hword : word.toList.isEmpty = false := by
      rw [List.isEmpty_eq_false_iff]
      exact fun he => hne (String.toList_eq_nil_iff.1 he)
    have hnoslash : word.toList.contains '/' = false := by simpa using hslash
    have hprefix : statsPath.isPrefixOf (statsPath ++ word.toList) = true :=
      List.isPrefixOf_iff_prefix.2 (List.prefix_append _ _)
    simp only [path, String.toList_ofList, List.drop_left, hprefix, hword, hnoslash,
      String.ofList_toList]
    rfl
  | health | playTypes | parseResult | parseBets | evaluateBet | checkLimits => decide

end View
end Service
end Lottery
