import Monogon.Net.IP
import Monogon.Proto
import Monogon.Roleserve.StatusPush
import Monogon.Hostsfile.NodeMap
import Monogon.Hostsfile.Cluster
import Monogon.Hostsfile.Service
import Monogon.Localstorage.DataDirectory
import Monogon.Kubernetes.Pki
import Monogon.Path
import Monogon.Kubernetes.CsiPlugin
import Monogon.Kubernetes.Reconcile
import Monogon.Mkerofs.Tree
import Monogon.Mkerofs.Write
import Monogon.Localstorage.Crypt
import Monogon.Localstorage.CryptMap
import Monogon.Build.BazelCcFix.Directive
import Monogon.Build.BazelCcFix.Rewrite
import Monogon.Blockdev
