import HdlLint.Proofs.Diagnostic.RoundTrip
import HdlLint.Proofs.Path.SlashedPaths
import HdlLint.Proofs.Session.RunStages

/-!
# Paths that come back from the linter

The path of a document is written for the linter in one of three ways, and a path that the
linter reports is understood without regard to that.  A document whose path is reported as
it was written is recognized only if the path comes back.

* `LintRequest.pathReturns_of_windows` and `LintRequest.pathReturns_of_subsystem`: what
  this means on a Windows host.
* `LintRequest.pathReturns_iff`: the paths that come back.
-/

namespace HdlLint

namespace LintRequest

section ReturnedPath

variable {r : LintRequest}

/-- The path of the document, written for the linter, is understood as the path of the
document: it is not rewritten, it has no backslash to be replaced, or the translated path
happens to stand for it. -/
inductive PathReturns (r : LintRequest) : Prop
  | native
      (hplatform : r.platform.isWindows = false) :
      PathReturns r
  | windows
      (hwsl : r.settings.useWsl = false)
      (hpath : '\\' ∉ r.document.path.toList) :
      PathReturns r
  | subsystem
      {target : String}
      (hwsl : r.settings.useWsl = true)
      (htarget : (r.translator.translate r.document.path).2 = .ok target)
      (hresolve : r.scope.resolve target = r.document.path) :
      PathReturns r

theorem pathReturns_of_windows
    (hwindows : r.platform.isWindows = true)
    (hwsl : r.settings.useWsl = false) :
    r.PathReturns ↔ '\\' ∉ r.document.path.toList := by
  constructor
  · intro h
    cases h with
    | native hplatform =>
        cases hwindows.symm.trans hplatform
    | windows _ hpath =>
        exact hpath
    | subsystem hwsl' =>
        cases hwsl.symm.trans hwsl'
  · exact fun hpath => .windows hwsl hpath

theorem pathReturns_of_subsystem
    {target : String}
    (hwindows : r.platform.isWindows = true)
    (hwsl : r.settings.useWsl = true)
    (htarget : (r.translator.translate r.document.path).2 = .ok target) :
    r.PathReturns ↔ r.scope.resolve target = r.document.path := by
  constructor
  · intro h
    cases h with
    | native hplatform =>
        cases hwindows.symm.trans hplatform
    | windows hwsl' =>
        cases hwsl.symm.trans hwsl'
    | subsystem _ htarget' hresolve =>
        cases htarget.symm.trans htarget'
        exact hresolve
  · exact fun hresolve => .subsystem hwsl htarget hresolve

theorem resolve_of_isAbsolute
    {path : String}
    (h : r.platform.isAbsolute path = true) :
    r.scope.resolve path = path := by
  have hkeeps : r.scope.Keeps path :=
    Or.inr (Or.inr h)
  exact hkeeps.resolve_eq

/-- An absolute path comes back from the linter exactly if it is understood as itself
after it was written. -/
theorem pathReturns_iff
    {target : String}
    (habsolute : r.platform.isAbsolute r.document.path = true)
    (hwritten : r.written r.document.path = .ok target) :
    r.PathReturns ↔ r.scope.resolve target = r.document.path := by
  cases hwindows : r.platform.isWindows with
  | false =>
      rw [written_of_native hwindows] at hwritten
      cases hwritten
      exact iff_of_true (.native hwindows) (resolve_of_isAbsolute habsolute)
  | true =>
      cases hwsl : r.settings.useWsl with
      | false =>
          rw [written_of_windows hwindows hwsl] at hwritten
          cases hwritten
          have hslashes :
              r.platform.isAbsolute
                (String.ofList (Path.Windows.toSlashes r.document.path.toList)) =
                true := by
            simp only [Platform.isAbsolute, hwindows, if_true,
              String.toList_ofList] at habsolute ⊢
            rw [Path.Windows.isAbsolute_toSlashes]
            exact habsolute
          rw [pathReturns_of_windows hwindows hwsl,
            resolve_of_isAbsolute hslashes, ← String.toList_inj,
            String.toList_ofList, Path.Windows.toSlashes_eq_self_iff]
      | true =>
          rw [written_of_subsystem hwindows hwsl] at hwritten
          exact pathReturns_of_subsystem hwindows hwsl hwritten

end ReturnedPath
end LintRequest
end HdlLint
