import Walkthrough.Main
import Walkthrough.Proofs.Emission
import Walkthrough.Proofs.Snapshot
import Walkthrough.Proofs.Refusal
import Walkthrough.Proofs.Agreement
import Walkthrough.Proofs.Effect
import Walkthrough.Proofs.CallEffect
import Walkthrough.Proofs.Sorting.Permutation
import Walkthrough.Proofs.StepName
import Walkthrough.Proofs.Catalogue
import Walkthrough.Proofs.SingleStep
import Walkthrough.Proofs.FreshDefaults
import Walkthrough.Proofs.CatalogueIntegrity
import Walkthrough.Proofs.Announcement
import Walkthrough.Proofs.Reading
import Walkthrough.Proofs.RunOutput
import Walkthrough.Proofs.OutputDecoding
import Walkthrough.Proofs.CommandRun
import Walkthrough.Proofs.CommandExit
import Walkthrough.Proofs.ArgumentSpelling
import Walkthrough.Proofs.ListingOrder
import Walkthrough.Proofs.UnknownName
import Walkthrough.Proofs.Wrapping
import Walkthrough.Proofs.Tags
import Walkthrough.Proofs.ShownMarkup
import Walkthrough.Proofs.UnknownStep
import Walkthrough.Proofs.StorageOrder
import Walkthrough.Proofs.Summation
import Walkthrough.Proofs.SumOfContainer
import Walkthrough.Proofs.IteratorHistory
import Walkthrough.Proofs.EqualityByDisplay
import Walkthrough.Proofs.DerivedText
import Walkthrough.Proofs.AcyclicDisplay
