import WindowPlacement.Desktop.Update
import WindowPlacement.Main
import WindowPlacement.Proofs.AllOrNothing
import WindowPlacement.Proofs.CallArity
import WindowPlacement.Proofs.Calls
import WindowPlacement.Proofs.ClientGeometry
import WindowPlacement.Proofs.ClientOrder
import WindowPlacement.Proofs.ConfigInfluence
import WindowPlacement.Proofs.Descent
import WindowPlacement.Proofs.FocusSearch
import WindowPlacement.Proofs.Footprint
import WindowPlacement.Proofs.HeadOrder
import WindowPlacement.Proofs.InnerAreas
import WindowPlacement.Proofs.Interchange
import WindowPlacement.Proofs.Mirrors
import WindowPlacement.Proofs.Misfits
import WindowPlacement.Proofs.PlacementLine
import WindowPlacement.Proofs.PlacementView
import WindowPlacement.Proofs.ReducedHeads
import WindowPlacement.Proofs.Repetition
import WindowPlacement.Proofs.StackTop
import WindowPlacement.Proofs.StrutSet
import WindowPlacement.Proofs.SwitchRuns
import WindowPlacement.Proofs.WholeEdges
import WindowPlacement.Proofs.WholeValues
import WindowPlacement.Session
import WindowPlacement.Unicode.ByteRanges
import WindowPlacement.Proofs.IdleInsets
import WindowPlacement.Proofs.PresetChoice
