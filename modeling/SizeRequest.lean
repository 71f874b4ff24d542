import SizeRequest.Main
import SizeRequest.Proofs.ArgumentFaults
import SizeRequest.Proofs.BuiltRequests
import SizeRequest.Proofs.CommandLine
import SizeRequest.Proofs.Descriptions
import SizeRequest.Proofs.DimensionNames
import SizeRequest.Proofs.EventLog
import SizeRequest.Proofs.FlagRendering
import SizeRequest.Proofs.JsonSpecs
import SizeRequest.Proofs.ListedMembers
import SizeRequest.Proofs.Lookups
import SizeRequest.Proofs.OmittedEscape
import SizeRequest.Proofs.Output
import SizeRequest.Proofs.Reordering
import SizeRequest.Proofs.Replay
import SizeRequest.Proofs.RequestDocument
import SizeRequest.Proofs.ResolutionAfterLookups
import SizeRequest.Proofs.ShownRequests
import SizeRequest.Proofs.ShownSpecs
import SizeRequest.Proofs.SpecFiles
import SizeRequest.Proofs.SpecFormats
import SizeRequest.Proofs.SpecLoading
import SizeRequest.Proofs.Synopsis
import SizeRequest.Proofs.TableLayout
