/-
  What rendering a provider does: one look at the flag for each record, then an event, and the text
  is the source of the records, whatever the watch is.
-/

import RouteIndex.Proofs.Pass
import RouteIndex.Provider.Source

namespace RouteIndex.Provider

open Pass

/-- The ticks of rendering some records. -/
def renderTicks (options : Options) (records : List FunctionRecord) : List Tick :=
  records.map (fun _ => .check) ++
    [.event (.providerRendered records.length (source options records).utf8ByteSize
      options.autoRegister)]

/-- One look at the flag for each record, so that a pass with many records can still be stopped
while it renders. -/
theorem checkEach_does (records : List FunctionRecord) :
    (checkEach records).Does (records.map fun _ => .check) () := by
  induction records with
  | nil => exact does_pure ()
  | cons r records ih => exact does_check.bind ih

/-- **Rendering gives the source of the records**, which depends on nothing else; the watch only
decides whether it is reached. -/
theorem render_does (options : Options) (records : List FunctionRecord) :
    (render options records).Does (renderTicks options records) (source options records) :=
  (checkEach_does records).bind ((does_record _).bind (does_pure _))

theorem isWork_renderTicks (options : Options) (records : List FunctionRecord) :
    IsWork (renderTicks options records) := by
  refine IsWork.append ?_ (isWork_event rfl)
  intro e he
  obtain ⟨r, -, hr⟩ := List.mem_map.mp he
  nomatch hr

end RouteIndex.Provider
