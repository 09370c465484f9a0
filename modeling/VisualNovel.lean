import VisualNovel.Main
import VisualNovel.Proofs.BrokenLinks
import VisualNovel.Proofs.Coherence
import VisualNovel.Session.Shared
import VisualNovel.Proofs.Progress
import VisualNovel.Proofs.Reachability
import VisualNovel.Proofs.Naming
import VisualNovel.Proofs.HandedActions
import VisualNovel.Proofs.Course
import VisualNovel.Proofs.Resolved
import VisualNovel.Proofs.Strictness
import VisualNovel.Proofs.Refusals
import VisualNovel.Proofs.SingleUse
import VisualNovel.Proofs.Belongings
import VisualNovel.Proofs.Orderly
import VisualNovel.Proofs.Links
import VisualNovel.Proofs.Identity
import VisualNovel.Proofs.NewGame
import VisualNovel.Proofs.Prompt
import VisualNovel.Proofs.WithinReach
import VisualNovel.Proofs.Members
import VisualNovel.Proofs.Rearranged
import VisualNovel.Proofs.SpelledBack
import VisualNovel.Proofs.Entrances
import VisualNovel.Proofs.GoingOn
import VisualNovel.Proofs.LastLine
import VisualNovel.Proofs.Picking
import VisualNovel.Proofs.LinkClosure
import VisualNovel.Proofs.Flaws
import VisualNovel.Proofs.FirstFault
import VisualNovel.Proofs.Portraits
import VisualNovel.Proofs.Rounds
